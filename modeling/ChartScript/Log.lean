import ChartScript.Text.Basic

/-!
# Log records

Log records tell what a run does.  A record has a level, and it is written when its level reaches
the threshold in force.

* `Level.resolve` picks the threshold from the places it can be given in.
* `Record.text` writes a record; the time is supplied by whoever writes it.
* `Logging` are the computations that write records.  They are given the threshold, so nothing in
  their type keeps it out of their results.
-/

set_option autoImplicit false

namespace ChartScript

/-- The levels of log records. -/
inductive Level where
  | debug
  | info
  | warning
  | error
  deriving DecidableEq, Repr

namespace Level

/-- How grave a level is. -/
def severity : Level → Int
  | .debug => 10
  | .info => 20
  | .warning => 30
  | .error => 40

/-- The name of a level in a record. -/
def name : Level → String
  | .debug => "DEBUG"
  | .info => "INFO"
  | .warning => "WARNING"
  | .error => "ERROR"

/-- The word for a level that a user writes. -/
def word : Level → String
  | .debug => "debug"
  | .info => "info"
  | .warning => "warning"
  | .error => "error"

/-- All levels, from the least grave on. -/
def all : List Level := [.debug, .info, .warning, .error]

/-- The level that a user's word names; letter case does not count, and an unknown word counts as
`warning`.  Level names are ASCII, so only ASCII letters need to be folded. -/
def ofWord (word : Text) : Level :=
  (all.find? fun level => level.word == word.toLower).getD .warning

/-- The threshold: the first word given among the command line, the environment and the
configuration, where an empty word counts as none. -/
def resolve (explicit environment configured : Option Text) : Level :=
  match [explicit, environment, configured].findSome? (·.filter fun word => !word.isEmpty) with
  | some word => ofWord word
  | none => .warning

end Level

/-- The threshold in force when none was chosen. -/
def defaultThreshold : Int := Level.warning.severity

/-- Whether records of a level are written; the threshold zero chooses none. -/
def admits (threshold : Int) (level : Level) : Bool :=
  (if threshold = 0 then defaultThreshold else threshold) ≤ level.severity

/-- A log record and the part of the program it comes from. -/
structure Record where
  logger : String
  level : Level
  message : Text
  deriving DecidableEq, Repr

namespace Record

/-- A record as it is written, with the time it is written at. -/
def text (time : String) (r : Record) : Text :=
  time ++ " - " ++ r.logger ++ " - " ++ r.level.name ++ " - " ++ r.message

end Record

/-! ## Computations that write records -/

/-- A computation that writes log records.  It is given the threshold in force, and comes to a
result and the records that it writes, in order. -/
def Logging (α : Type) : Type := Int → α × List Record

namespace Logging

instance : Monad Logging where
  pure a := fun _ => (a, [])
  bind x f := fun threshold =>
    let first := x threshold
    let second := f first.1 threshold
    (second.1, first.2 ++ second.2)

/-- Writes a record, if the threshold admits its level. -/
def write (r : Record) : Logging Unit := fun threshold =>
  ((), if admits threshold r.level then [r] else [])

/-- A result that is known beforehand, and may be a failure. -/
def known {ε α : Type} (result : Except ε α) : ExceptT ε Logging α := ExceptT.mk (pure result)

/-- The result under the threshold in force when none was chosen. -/
def value {α : Type} (x : Logging α) : α := (x defaultThreshold).1

section

variable {ε α β : Type}

@[simp]
theorem value_pure (a : α) : value (pure a) = a := rfl

@[simp]
theorem value_bind (x : Logging α) (f : α → Logging β) : (x >>= f).value = (f x.value).value := rfl

@[simp]
theorem value_known (result : Except ε α) : (known result).run.value = result := rfl

@[simp]
theorem value_adapt {ε' : Type} (f : ε → ε') (x : ExceptT ε Logging α) :
    (ExceptT.adapt f x).run.value = x.run.value.mapError f := rfl

theorem value_foldlM (f : β → α → Logging β) (start : β) (items : List α) :
    (items.foldlM f start).value = items.foldl (fun b a => (f b a).value) start := by
  induction items generalizing start with
  | nil => rfl
  | cons a items ih => rw [List.foldlM_cons, value_bind, ih, List.foldl_cons]

theorem value_run_bind (x : ExceptT ε Logging α) (f : α → ExceptT ε Logging β) :
    (x >>= f).run.value = x.run.value.bind fun a => (f a).run.value := by
  show value ((x.run >>= ExceptT.bindCont f : Logging _)) = _
  rw [value_bind]
  cases x.run.value with
  | ok a => rfl
  | error e => rfl

end

end Logging
end ChartScript
