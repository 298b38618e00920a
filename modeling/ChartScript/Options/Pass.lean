import ChartScript.Event
import ChartScript.Options.Effect
import ChartScript.Options.Store

/-!
# Passes over the given options

A pass makes the given options of one phase take effect, flags first, then settings, then repeated
options, each kind in the order of names.  So the result does not depend on where the options stand
in the description.

* `Store.assignments` lists the options of a phase with their values, in that order.
* `Pass.run` changes a style by such a list and stops at the first option that fails.  It is the
  result of `Pass.runM`, which logs every option that it comes to.
-/

set_option autoImplicit false

namespace ChartScript

/-- A given option with its value. -/
inductive Assignment where
  | flag (flag : Flag)
  | setting (setting : Setting) (value : Text)
  | repeated (option : Repeated) (values : List Text)
  deriving DecidableEq, Repr

namespace Assignment

/-- The option. -/
def key : Assignment → Key
  | .flag f => .flag f
  | .setting s _ => .setting s
  | .repeated r _ => .repeated r

/-- When the option takes effect. -/
def phase (a : Assignment) : Phase := a.key.phase

/-- What the option writes. -/
def line? : Assignment → Option Text
  | .flag f => f.line?
  | .setting s value => s.line?.map (· value)
  | .repeated r values => r.line?.map (· values)

/-- The style after the option took effect. -/
def update (style : Style) : Assignment → Except OptionFault Style
  | .flag f =>
    match f.update? with
    | some change => .ok (change style)
    | none => .ok style
  | .setting s value =>
    match s.update? with
    | some change => change value style
    | none => .ok style
  | .repeated r values =>
    match r.update? with
    | some change => .ok (change values style)
    | none => .ok style

/-- The value of an option that is read as a number and does not start with one. -/
def notNumeric? : Assignment → Option Text
  | .setting s value => if s.isNumeric && !startsWithNumeral value then some value else none
  | _ => none

/-- Logs that the option takes effect, and a value that is no number. -/
def log (a : Assignment) : Logging Unit := do
  Event.log (.optionApplied a.key)
  if let some value := a.notNumeric? then Event.log (.notNumeric value)

/-- Makes the option take effect, and logs it. -/
def updateM (style : Style) (a : Assignment) : ExceptT OptionFault Logging Style := do
  a.log
  Logging.known (a.update style)

@[simp]
theorem value_updateM (style : Style) (a : Assignment) :
    (a.updateM style).run.value = a.update style := rfl

end Assignment

namespace Store

/-- The given options of a phase, in the order in which they take effect. -/
def assignments (store : Store) (phase : Phase) : List Assignment :=
  let flags := (Flag.inNameOrder.filter store.flags).map Assignment.flag
  let settings := Setting.all.filterMap fun s => (store.settings s).map (.setting s)
  let repeated := Repeated.all.filterMap fun r =>
    if (store.repeated r).isEmpty then none else some (.repeated r (store.repeated r))
  (flags ++ settings ++ repeated).filter (·.phase = phase)

end Store

/-- How far a pass came: the style, and the fault that stopped it. -/
structure PassResult where
  style : Style
  fault : Option OptionFault

namespace Pass

/-- Changes a style by options, one after the other, up to the first that fails. -/
def runM (style : Style) : List Assignment → Logging PassResult
  | [] => return ⟨style, none⟩
  | a :: rest => do
    match ← (a.updateM style).run with
    | .ok style => runM style rest
    | .error fault => return ⟨style, some fault⟩

/-- The result of a pass. -/
def run (style : Style) (assignments : List Assignment) : PassResult :=
  (runM style assignments).value

@[simp]
theorem run_nil (style : Style) : run style [] = ⟨style, none⟩ := rfl

theorem run_cons (style : Style) (a : Assignment) (rest : List Assignment) :
    run style (a :: rest) =
      match a.update style with
      | .ok style => run style rest
      | .error fault => ⟨style, some fault⟩ := by
  rw [run, runM, Logging.value_bind, Assignment.value_updateM]
  cases a.update style with
  | ok style => rfl
  | error fault => rfl

/-- What options write, in order. -/
def lines (assignments : List Assignment) : List Text := assignments.filterMap (·.line?)

end Pass
end ChartScript
