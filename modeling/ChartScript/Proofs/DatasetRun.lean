import ChartScript.Proofs.Collection

/-!
# What a run of steps leaves in a dataset

Data is collected in steps of three kinds: a mode becomes active, a line is added as a row, a set is
started.  This file says what any number of them, in any order and from any mode, leave behind.

To say it, one must know in which mode each step was taken, and the mode is state.  `timeline` puts
the mode to every step by looking at the steps alone; from it follow the lines added in a mode
(`linesIn`) and the modes in which sets were started (`setsStarted`).  So what is expected of a
dataset is stated without a dataset, and comparing the two is a matter of one step lemma and one
induction from the end of the list, where the last step sees what all others left.

`WellFormed` is the part of the invariant that can be seen on a dataset alone.  It is kept apart
from the rest because it is what a single step preserves from *any* well-formed dataset
(`WellFormed.step`), whatever led there; the rest compares with the whole history and makes sense
for runs only.

A `Dataset` has a field for every mode, and an empty field stands for a bucket that is not there.
That is convenient for layouts, which ask only whether there is anything to lay out, but it cannot
express that a bucket exists and is empty, and so cannot deny it.  `Dataset.Collector` is the same
collection with a dictionary of buckets, where a bucket comes into being with the first entry that
is put into it.  A step of one is a step of the other (`collector_step`), hence a run too, and
`run_records` can say of the dictionary what the fields hide: every bucket that is there is
non-empty, and it is there exactly when a step of the run put something into it.
-/

set_option autoImplicit false

namespace ChartScript
namespace Dataset

/-! ## Steps -/

/-- A step in the collection of data. -/
inductive Step where
  /-- A mode becomes active. -/
  | mode (mode : Mode)
  /-- A line is added as a row. -/
  | row (line : Text)
  /-- A set is started. -/
  | set (title : Text)
  deriving DecidableEq, Repr

namespace Step

/-- The mode that a step makes active. -/
def mode? : Step → Option Mode
  | .mode m => some m
  | _ => none

/-- The line that a step adds. -/
def line? : Step → Option Text
  | .row line => some line
  | _ => none

/-- The title of the set that a step starts. -/
def title? : Step → Option Text
  | .set title => some title
  | _ => none

/-- The line of a description that has the effect of a step. -/
def toLine : Step → Line
  | .mode m => .mode m
  | .row line => .row (Row.read line)
  | .set title => .newSet title

end Step

/-- The data after a step. -/
def step (d : Dataset) : Step → Dataset
  | .mode m => d.switchMode m
  | .row line => d.addRow (Row.read line)
  | .set title => d.beginSet title

/-- The data after steps from an empty dataset in which `initial` is the active mode. -/
def run (initial : Mode) (steps : List Step) : Dataset := steps.foldl step { mode := initial }

theorem run_append_singleton (initial : Mode) (steps : List Step) (s : Step) :
    run initial (steps ++ [s]) = (run initial steps).step s := by
  rw [run, List.foldl_append]
  rfl

theorem step_eq_takeIn (d : Dataset) (s : Step) : d.step s = d.takeIn s.toLine := by
  cases s <;> rfl

theorem mode_step (d : Dataset) (s : Step) : (d.step s).mode = s.mode?.getD d.mode := by
  cases s with
  | mode m => rfl
  | row line => exact mode_push d d.mode _
  | set title => exact mode_beginSet d title

theorem setTitles_step (d : Dataset) (s : Step) :
    (d.step s).setTitles = d.setTitles ++ s.title?.toList := by
  cases s with
  | mode m => simpa [step, Step.title?] using setTitles_switchMode d m
  | row line => simp [step, addRow, Step.title?]
  | set title => exact setTitles_beginSet d title

/-- A step changes a bucket only by what it adds to its end. -/
theorem bucket_step (d : Dataset) (s : Step) (m : Mode) :
    (d.step s).bucket m = d.bucket m ++ d.added s.toLine m := by
  rw [step_eq_takeIn, bucket_takeIn]

/-! ## Steps and the modes they are taken in -/

/-- The mode that is active after steps. -/
def modeAfter (initial : Mode) (steps : List Step) : Mode :=
  steps.foldl (fun active s => s.mode?.getD active) initial

/-- The steps, each with the mode that is active when it is taken. -/
def timeline (active : Mode) : List Step → List (Mode × Step)
  | [] => []
  | s :: steps => (active, s) :: timeline (s.mode?.getD active) steps

/-- The lines that steps add in a mode, in order. -/
def linesIn (initial : Mode) (steps : List Step) (m : Mode) : List Text :=
  (timeline initial steps).filterMap fun (active, s) => if active = m then s.line? else none

/-- The titles of the sets that steps start, in order, each with the mode it is started in. -/
def setsStarted (initial : Mode) (steps : List Step) : List (Mode × Text) :=
  (timeline initial steps).filterMap fun (active, s) => s.title?.map (active, ·)

/-- Whether steps start a set in a mode that is not the first set of all. -/
def StartsLaterSet (initial : Mode) (steps : List Step) (m : Mode) : Prop :=
  ∃ set ∈ (setsStarted initial steps).tail, set.1 = m

instance (initial : Mode) (steps : List Step) (m : Mode) :
    Decidable (StartsLaterSet initial steps m) :=
  inferInstanceAs (Decidable (∃ set ∈ (setsStarted initial steps).tail, set.1 = m))

/-- Whether steps make a bucket for a mode.  There is none until a row is added in the mode or a set
is started in it that is not the first. -/
def MakesBucket (initial : Mode) (steps : List Step) (m : Mode) : Prop :=
  linesIn initial steps m ≠ [] ∨ StartsLaterSet initial steps m

instance (initial : Mode) (steps : List Step) (m : Mode) :
    Decidable (MakesBucket initial steps m) :=
  inferInstanceAs (Decidable (_ ∨ _))

theorem timeline_append_singleton (initial : Mode) (steps : List Step) (s : Step) :
    timeline initial (steps ++ [s]) =
      timeline initial steps ++ [(modeAfter initial steps, s)] := by
  induction steps generalizing initial with
  | nil => rfl
  | cons t steps ih =>
    rw [List.cons_append, timeline, timeline, ih]
    rfl

theorem linesIn_append_singleton (initial : Mode) (steps : List Step) (s : Step) (m : Mode) :
    linesIn initial (steps ++ [s]) m =
      linesIn initial steps m ++
        (if modeAfter initial steps = m then s.line? else none).toList := by
  rw [linesIn, timeline_append_singleton, List.filterMap_append, linesIn]
  cases h : (if modeAfter initial steps = m then s.line? else none) <;> simp [h]

theorem setsStarted_append_singleton (initial : Mode) (steps : List Step) (s : Step) :
    setsStarted initial (steps ++ [s]) =
      setsStarted initial steps ++
        (s.title?.map fun title => (modeAfter initial steps, title)).toList := by
  rw [setsStarted, timeline_append_singleton, List.filterMap_append, setsStarted]
  cases h : s.title? <;> simp [h]

theorem map_snd_setsStarted (initial : Mode) (steps : List Step) :
    (setsStarted initial steps).map Prod.snd = steps.filterMap Step.title? := by
  induction steps using List.reverseRecOn with
  | nil => rfl
  | append_singleton steps s ih =>
    rw [setsStarted_append_singleton, List.map_append, ih, List.filterMap_append]
    cases h : s.title? <;> simp [h]

/-- A step starts a later set when it starts one after another. -/
theorem startsLaterSet_append_singleton (initial : Mode) (steps : List Step) (s : Step)
    (m : Mode) :
    StartsLaterSet initial (steps ++ [s]) m ↔
      StartsLaterSet initial steps m ∨
        s.title? ≠ none ∧ setsStarted initial steps ≠ [] ∧ modeAfter initial steps = m := by
  rw [StartsLaterSet, setsStarted_append_singleton, StartsLaterSet]
  cases hs : s.title? with
  | none => simp
  | some title =>
    cases hsets : setsStarted initial steps with
    | nil => simp
    | cons set sets => simp [or_and_right, exists_or]

/-! ## One step -/

/-- What holds of a dataset whatever steps led to it. -/
structure WellFormed (d : Dataset) : Prop where
  /-- Marks between groups are in the bucket of the multi mode only. -/
  group_mem : ∀ m, Entry.group ∈ d.bucket m → m = .multi
  /-- There is something in front of the first of them. -/
  group_head : d.multi.head? ≠ some .group
  /-- Over all buckets there is one mark for every set but the first. -/
  setMarks : d.setMarks = d.setTitles.length - 1

theorem group_mem_added {d : Dataset} {line : Line} {m : Mode}
    (h : Entry.group ∈ d.added line m) : m = .multi ∧ d.multi ≠ [] := by
  cases line with
  | mode m' =>
    rw [added] at h
    split at h
    · next hmulti => exact hmulti.2
    · exact absurd h (by simp)
  | row | newSet =>
    rw [added] at h
    split at h <;> exact absurd h (by simp)
  | _ => exact absurd h (by simp [added])

/-- A step keeps a dataset well-formed. -/
theorem WellFormed.step {d : Dataset} (h : d.WellFormed) (s : Step) : (d.step s).WellFormed where
  group_mem m hm := by
    rw [bucket_step, List.mem_append] at hm
    rcases hm with hold | hnew
    · exact h.group_mem m hold
    · exact (group_mem_added hnew).1
  group_head hfirst := by
    have hbucket : (d.step s).multi = d.multi ++ d.added s.toLine .multi := bucket_step d s .multi
    rw [hbucket] at hfirst
    cases hmulti : d.multi with
    | nil =>
      -- the first entry of all is new here, and a mark is new only where there is something already
      rw [hmulti, List.nil_append] at hfirst
      exact (group_mem_added (List.mem_of_mem_head? hfirst)).2 hmulti
    | cons e rest =>
      rw [hmulti, List.cons_append, List.head?_cons] at hfirst
      exact h.group_head (by rw [hmulti, List.head?_cons, hfirst])
  setMarks := by
    rw [step_eq_takeIn]
    exact setMarks_takeIn h.setMarks s.toLine

/-- What a step puts into a bucket that is not a mark between groups makes the bucket. -/
theorem bucket_step_ne_nil_iff (d : Dataset) (s : Step) (m : Mode) :
    (d.step s).bucket m ≠ [] ↔
      d.bucket m ≠ [] ∨ d.mode = m ∧ (s.line? ≠ none ∨ s.title? ≠ none ∧ d.setTitles ≠ []) := by
  rw [bucket_step, ne_eq, List.append_eq_nil_iff, not_and_or]
  cases s with
  | row line => simp [added, Step.toLine, Step.line?, Step.title?]
  | set title => simp [added, Step.toLine, Step.line?, Step.title?, and_comm]
  | mode m' =>
    have hmark : d.added (.mode m') m ≠ [] → d.bucket m ≠ [] := by
      intro hadded
      obtain ⟨e, he⟩ := List.exists_mem_of_ne_nil _ hadded
      rw [added] at he
      split at he
      · next hmulti =>
        rw [hmulti.2.1]
        exact hmulti.2.2
      · exact absurd he (by simp)
    simp only [Step.toLine, Step.line?, Step.title?]
    constructor
    · rintro (hold | hadded)
      · exact Or.inl hold
      · exact Or.inl (hmark hadded)
    · rintro (hold | ⟨-, hnone | ⟨hnone, -⟩⟩)
      · exact Or.inl hold
      · exact absurd rfl hnone
      · exact absurd rfl hnone

theorem rows_step (d : Dataset) (s : Step) (m : Mode) :
    (d.step s).rows m =
      d.rows m ++ ((if d.mode = m then s.line? else none).map Row.read).toList := by
  rw [rows, bucket_step, List.filterMap_append, rows]
  congr 1
  cases s with
  | row line => by_cases hm : d.mode = m <;> simp [added, Step.toLine, Step.line?, hm, Entry.row?]
  | set title =>
    by_cases hm : d.setTitles ≠ [] ∧ d.mode = m <;>
      simp [added, Step.toLine, Step.line?, hm, Entry.row?]
  | mode m' =>
    by_cases hm : m' = .multi ∧ m = .multi ∧ d.multi ≠ [] <;>
      simp [added, Step.toLine, Step.line?, hm, Entry.row?]

/-! ## All steps -/

theorem bucket_run_nil (initial m : Mode) : (run initial []).bucket m = [] := by
  cases m <;> rfl

theorem mode_run (initial : Mode) (steps : List Step) :
    (run initial steps).mode = modeAfter initial steps := by
  induction steps using List.reverseRecOn with
  | nil => rfl
  | append_singleton steps s ih =>
    rw [run_append_singleton, mode_step, ih, modeAfter, modeAfter, List.foldl_append]
    rfl

theorem setTitles_run (initial : Mode) (steps : List Step) :
    (run initial steps).setTitles = steps.filterMap Step.title? := by
  induction steps using List.reverseRecOn with
  | nil => rfl
  | append_singleton steps s ih =>
    rw [run_append_singleton, setTitles_step, ih, List.filterMap_append]
    cases h : s.title? <;> simp [h]

theorem setTitles_run_eq_nil_iff (initial : Mode) (steps : List Step) :
    (run initial steps).setTitles = [] ↔ setsStarted initial steps = [] := by
  rw [setTitles_run, ← map_snd_setsStarted initial, List.map_eq_nil_iff]

theorem wellFormed_run (initial : Mode) (steps : List Step) : (run initial steps).WellFormed := by
  induction steps using List.reverseRecOn with
  | nil =>
    refine ⟨fun m hm => ?_, by simp [run], rfl⟩
    rw [bucket_run_nil] at hm
    exact absurd hm (by simp)
  | append_singleton steps s ih =>
    rw [run_append_singleton]
    exact ih.step s

/-- The buckets with something in them are those that the steps make. -/
theorem bucket_run_ne_nil_iff (initial : Mode) (steps : List Step) (m : Mode) :
    (run initial steps).bucket m ≠ [] ↔ MakesBucket initial steps m := by
  induction steps using List.reverseRecOn with
  | nil => simp [bucket_run_nil, MakesBucket, StartsLaterSet, linesIn, setsStarted, timeline]
  | append_singleton steps s ih =>
    rw [run_append_singleton, bucket_step_ne_nil_iff, ih, mode_run, ne_eq (setTitles _),
      setTitles_run_eq_nil_iff, MakesBucket, MakesBucket, linesIn_append_singleton,
      startsLaterSet_append_singleton]
    by_cases hm : modeAfter initial steps = m
    · cases hline : s.line? <;> simp [hm, or_assoc]
    · simp [hm]

/-- The rows of a mode are those of the lines added in it, in order. -/
theorem rows_run (initial : Mode) (steps : List Step) (m : Mode) :
    (run initial steps).rows m = (linesIn initial steps m).map Row.read := by
  induction steps using List.reverseRecOn with
  | nil => rw [rows, bucket_run_nil]; rfl
  | append_singleton steps s ih =>
    rw [run_append_singleton, rows_step, ih, mode_run, linesIn_append_singleton, List.map_append]
    congr 1
    cases (if modeAfter initial steps = m then s.line? else none) <;> rfl

/-! ## Buckets that are there -/

/-- Data in buckets that are made when something is first put into them.  A bucket that was not made
is not there, which is not the same as one that is there with nothing in it. -/
structure Collector where
  mode : Mode
  buckets : Mode → Option (List Entry) := fun _ => none
  setTitles : List Text := []

namespace Collector

/-- Puts an entry into the bucket of a mode, which is made if it is not there. -/
def push (c : Collector) (m : Mode) (e : Entry) : Collector :=
  { c with
    buckets := fun other =>
      if other = m then some ((c.buckets m).getD [] ++ [e]) else c.buckets other }

/-- The data after a step.  Where a group ends, a bucket that is not there counts as one with
nothing in it. -/
def step (c : Collector) : Step → Collector
  | .mode m =>
    let c := if m = .multi ∧ (c.buckets .multi).getD [] ≠ [] then c.push .multi .group else c
    { c with mode := m }
  | .row line => c.push c.mode (.row (Row.read line))
  | .set title =>
    let c := if c.setTitles ≠ [] then c.push c.mode .set else c
    { c with setTitles := c.setTitles ++ [title] }

/-- The data after steps from no buckets at all. -/
def run (initial : Mode) (steps : List Step) : Collector := steps.foldl step { mode := initial }

end Collector

/-- A dataset in buckets of which those are there that have something in them. -/
def collector (d : Dataset) : Collector where
  mode := d.mode
  buckets m := if d.bucket m = [] then none else some (d.bucket m)
  setTitles := d.setTitles

theorem getD_buckets_collector (d : Dataset) (m : Mode) :
    (d.collector.buckets m).getD [] = d.bucket m := by
  by_cases h : d.bucket m = [] <;> simp [collector, h]

theorem buckets_collector_eq_some_iff {d : Dataset} {m : Mode} {bucket : List Entry} :
    d.collector.buckets m = some bucket ↔ d.bucket m ≠ [] ∧ d.bucket m = bucket := by
  by_cases h : d.bucket m = [] <;> simp [collector, h]

theorem collector_push (d : Dataset) (m : Mode) (e : Entry) :
    (d.push m e).collector = d.collector.push m e := by
  have hbuckets : (d.push m e).collector.buckets = (d.collector.push m e).buckets := by
    funext other
    rw [Collector.push, getD_buckets_collector]
    by_cases hother : other = m
    · subst hother
      simp [collector]
    · simp [collector, bucket_push_of_ne d e hother, hother]
  rw [collector, Collector.push, Collector.mk.injEq]
  exact ⟨mode_push d m e, hbuckets, setTitles_push d m e⟩

/-- A step never makes a bucket without putting something into it. -/
theorem collector_step (d : Dataset) (s : Step) : (d.step s).collector = d.collector.step s := by
  have hpush : ∀ (p : Prop) [Decidable p] (m : Mode) (e : Entry),
      (if p then d.push m e else d).collector =
        if p then d.collector.push m e else d.collector := by
    intro p _ m e
    rw [apply_ite collector, collector_push]
  cases s with
  | row line => exact collector_push d d.mode _
  | mode m =>
    rw [Collector.step, getD_buckets_collector]
    exact congrArg (fun c : Collector => { c with mode := m })
      (hpush (m = .multi ∧ d.multi ≠ []) .multi .group)
  | set title =>
    exact congrArg (fun c : Collector => { c with setTitles := c.setTitles ++ [title] })
      (hpush (d.setTitles ≠ []) d.mode .set)

theorem collector_run (initial : Mode) (steps : List Step) :
    (run initial steps).collector = Collector.run initial steps := by
  induction steps using List.reverseRecOn with
  | nil =>
    rw [collector, Collector.run, List.foldl_nil, Collector.mk.injEq]
    refine ⟨rfl, funext fun m => ?_, rfl⟩
    rw [bucket_run_nil, if_pos rfl]
  | append_singleton steps s ih =>
    rw [run_append_singleton, collector_step, ih, Collector.run, Collector.run, List.foldl_append]
    rfl

/-- **What a run leaves.**  Marks between groups are in the bucket of the multi mode and never at
its front, and over all buckets there is one mark for every set but the first.  Every bucket that is
there has something in it, and those are there that the steps make.  The titles are those of the
sets started, in order, and the rows of a mode are read from exactly the lines added while it was
active, in order. -/
theorem run_records (initial : Mode) (steps : List Step) :
    let c := Collector.run initial steps
    let d := run initial steps
    (c.mode = d.mode ∧ c.setTitles = d.setTitles ∧ ∀ m, (c.buckets m).getD [] = d.bucket m) ∧
    (∀ m bucket, c.buckets m = some bucket → bucket ≠ []) ∧
    (∀ m, MakesBucket initial steps m ↔ ∃ bucket, c.buckets m = some bucket) ∧
    (∀ m, MakesBucket initial steps m ↔ d.bucket m ≠ []) ∧
    (∀ m, Entry.group ∈ d.bucket m → m = .multi) ∧
    d.multi.head? ≠ some .group ∧
    d.setMarks = d.setTitles.length - 1 ∧
    d.setTitles = steps.filterMap Step.title? ∧
    ∀ m, d.rows m = (linesIn initial steps m).map Row.read := by
  intro c d
  have hc : c = d.collector := (collector_run initial steps).symm
  have hmade := bucket_run_ne_nil_iff initial steps
  have hform := wellFormed_run initial steps
  refine ⟨?_, fun m bucket hbucket => ?_, fun m => ?_, fun m => (hmade m).symm, hform.group_mem,
    hform.group_head, hform.setMarks, setTitles_run initial steps, rows_run initial steps⟩
  · rw [hc]
    exact ⟨rfl, rfl, d.getD_buckets_collector⟩
  · rw [hc, buckets_collector_eq_some_iff] at hbucket
    exact hbucket.2 ▸ hbucket.1
  · simp only [hc, buckets_collector_eq_some_iff, exists_and_left, exists_eq', and_true]
    exact (hmade m).symm

end Dataset
end ChartScript
