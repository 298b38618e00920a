import ChartScript.Description
import ChartScript.Proofs.Words
import Mathlib.Data.List.Induction

/-!
# What lines add up to

`Description.ofLines` takes lines in one after the other, and a line may change any part of the
description.  A property of the result proved by induction on the lines would have to carry all
parts along, whether it speaks of them or not.  So the induction is made here, once for each part,
and what comes out is the part as a function of the lines: the grouping is the last one given, a
setting has its last value, a repeated option has all its values in order, and the data is what the
structural lines build.  Every other file starts from these equations and has no loop to go through.

The equations are stated with `Line.read`, and never with the text of a line.  How a line is
classified can then change without any of this being proved again; that a line counts as a row only
when it is read as a row is all that is used.

The data is the one part that is not a last value or a list of values, since what a row does depends
on the mode that the lines before it left active.  `Dataset.takeIn` is that dependence as a function
on datasets, so the data is a fold over lines that were read and filtered (`dataset_ofLines`).  Its
step lemma is `bucket_takeIn`: a line changes a bucket only by adding `Dataset.added` to its end.
Buckets therefore only grow, and every entry can be traced to the line that put it there
(`mem_bucket_ofLines`).  This is how a fact about marks in a bucket is turned back into one about
lines that somebody wrote: `Fills` says of a list of lines that one of them puts something into a
bucket, and a bucket holds anything exactly then.

Marks need one law that no bucket shows alone: a set that is not the first leaves its mark in
whatever bucket is active then, so the number of sets is known only from all three buckets together
(`setMarks_ofLines`).
-/

set_option autoImplicit false

namespace ChartScript

/-- A place in a list with one more element is a place in the list or the end of it. -/
theorem append_singleton_eq_append_cons_iff {α : Type} {l before rest : List α} {last a : α} :
    l ++ [last] = before ++ a :: rest ↔
      (∃ rest', rest = rest' ++ [last] ∧ l = before ++ a :: rest') ∨
        (before = l ∧ a = last ∧ rest = []) := by
  constructor
  · intro h
    rcases List.eq_nil_or_concat rest with rfl | ⟨rest', last', rfl⟩
    · obtain ⟨rfl, hlast⟩ := List.append_inj' h rfl
      exact .inr ⟨rfl, (List.singleton_inj.mp hlast).symm, rfl⟩
    · rw [List.concat_eq_append, ← List.cons_append, ← List.append_assoc] at h
      obtain ⟨hl, hlast⟩ := List.append_inj' h rfl
      rw [List.concat_eq_append, List.singleton_inj.mp hlast]
      exact .inl ⟨rest', rfl, hl⟩
  · rintro (⟨rest', rfl, rfl⟩ | ⟨rfl, rfl, rfl⟩)
    · simp
    · rfl

/-! ## What a line speaks of -/

namespace Line

/-- Whether a line is part of the data: a row, a data mode or the start of a set. -/
def isStructural : Line → Bool
  | .newSet _ | .mode _ | .row _ => true
  | _ => false

/-- The grouping that a line gives. -/
def grouping? : Line → Option Grouping
  | .grouping g => some g
  | _ => none

/-- The value that a line gives to a setting. -/
def valueOf? (s : Setting) : Line → Option Text
  | .setting s' value => if s' = s then some value else none
  | _ => none

/-- The value that a line adds to a repeated option. -/
def addedTo? (r : Repeated) : Line → Option Text
  | .repeated r' value => if r' = r then some value else none
  | _ => none

end Line

/-- The last grouping that lines give. -/
def lastGrouping (lines : List Text) : Option Grouping :=
  (lines.filterMap fun line => (Line.read line).grouping?).getLast?

/-- The last value that lines give to a setting. -/
def lastValue (s : Setting) (lines : List Text) : Option Text :=
  (lines.filterMap fun line => (Line.read line).valueOf? s).getLast?

/-- All values that lines add to a repeated option, in order. -/
def allValues (r : Repeated) (lines : List Text) : List Text :=
  lines.filterMap fun line => (Line.read line).addedTo? r

theorem lastGrouping_append (a b : List Text) :
    lastGrouping (a ++ b) = (lastGrouping b).or (lastGrouping a) := by
  rw [lastGrouping, List.filterMap_append, List.getLast?_append]
  rfl

theorem lastGrouping_singleton (line : Text) :
    lastGrouping [line] = (Line.read line).grouping? := by
  cases h : (Line.read line).grouping? <;> simp [lastGrouping, h]

theorem lastValue_append (s : Setting) (a b : List Text) :
    lastValue s (a ++ b) = (lastValue s b).or (lastValue s a) := by
  rw [lastValue, List.filterMap_append, List.getLast?_append]
  rfl

theorem lastValue_singleton (s : Setting) (line : Text) :
    lastValue s [line] = (Line.read line).valueOf? s := by
  cases h : (Line.read line).valueOf? s <;> simp [lastValue, h]

/-- The last value of a setting is given by one of the lines. -/
theorem exists_line_of_lastValue {s : Setting} {lines : List Text} {value : Text}
    (h : lastValue s lines = some value) : ∃ line ∈ lines, Line.read line = .setting s value := by
  obtain ⟨line, hline, hvalue⟩ := List.mem_filterMap.mp (List.mem_of_getLast? h)
  refine ⟨line, hline, ?_⟩
  generalize Line.read line = reading at hvalue ⊢
  cases reading with
  | setting s' value' =>
    rw [Line.valueOf?, Option.ite_none_right_eq_some] at hvalue
    obtain ⟨rfl, hvalue⟩ := hvalue
    rw [Option.some.inj hvalue]
  | _ => exact absurd hvalue (by simp [Line.valueOf?])

theorem allValues_append (r : Repeated) (a b : List Text) :
    allValues r (a ++ b) = allValues r a ++ allValues r b :=
  List.filterMap_append

theorem allValues_singleton (r : Repeated) (line : Text) :
    allValues r [line] = ((Line.read line).addedTo? r).toList := by
  cases h : (Line.read line).addedTo? r <;> simp [allValues, h]

/-! ## One line -/

namespace Dataset

/-- The data after a line. -/
def takeIn (d : Dataset) : Line → Dataset
  | .newSet title => d.beginSet title
  | .mode m => d.switchMode m
  | .row r => d.addRow r
  | _ => d

theorem takeIn_of_isStructural_eq_false (d : Dataset) {line : Line}
    (h : line.isStructural = false) : d.takeIn line = d := by
  cases line with
  | newSet | mode | row => exact absurd h (by simp [Line.isStructural])
  | _ => rfl

/-- What a line adds to the bucket of a mode. -/
def added (d : Dataset) (line : Line) (m : Mode) : List Entry :=
  match line with
  | .row r => if d.mode = m then [.row r] else []
  | .newSet _ => if d.setTitles ≠ [] ∧ d.mode = m then [.set] else []
  | .mode m' => if m' = .multi ∧ m = .multi ∧ d.multi ≠ [] then [.group] else []
  | _ => []

theorem bucket_push (d : Dataset) (mode m : Mode) (entry : Entry) :
    (d.push mode entry).bucket m = d.bucket m ++ (if mode = m then [entry] else []) := by
  by_cases h : mode = m
  · subst h
    simp
  · rw [bucket_push_of_ne d entry (Ne.symm h), if_neg h, List.append_nil]

/-- A line changes a bucket only by what it adds to its end. -/
theorem bucket_takeIn (d : Dataset) (line : Line) (m : Mode) :
    (d.takeIn line).bucket m = d.bucket m ++ d.added line m := by
  cases line with
  | row r => exact bucket_push d d.mode m (.row r)
  | newSet title =>
    have htitle : ∀ e : Dataset,
        ({ e with setTitles := e.setTitles ++ [title] } : Dataset).bucket m = e.bucket m := by
      intro e
      cases m <;> rfl
    show (beginSet d title).bucket m = _
    rw [beginSet, htitle]
    by_cases hs : d.setTitles = []
    · simp [added, hs]
    · simp [added, hs, bucket_push]
  | mode m' =>
    have hmode : ∀ e : Dataset, ({ e with mode := m' } : Dataset).bucket m = e.bucket m := by
      intro e
      cases m <;> rfl
    show (switchMode d m').bucket m = _
    rw [switchMode, hmode]
    by_cases hs : m' = .multi ∧ d.multi ≠ []
    · rw [if_pos hs, bucket_push]
      by_cases hm : m = .multi
      · simp [added, hs.1, hs.2, hm]
      · simp [added, hs.1, hm, Ne.symm hm]
    · rw [if_neg hs]
      have hnone : ¬(m' = .multi ∧ m = .multi ∧ d.multi ≠ []) := fun h => hs ⟨h.1, h.2.2⟩
      rw [added, if_neg hnone, List.append_nil]
  | _ => exact (List.append_nil _).symm

theorem mode_beginSet (d : Dataset) (title : Text) : (d.beginSet title).mode = d.mode := by
  rw [beginSet]
  split <;> simp

theorem setTitles_beginSet (d : Dataset) (title : Text) :
    (d.beginSet title).setTitles = d.setTitles ++ [title] := by
  rw [beginSet]
  split <;> simp

theorem setTitles_switchMode (d : Dataset) (m : Mode) :
    (d.switchMode m).setTitles = d.setTitles := by
  rw [switchMode]
  split <;> simp

/-! ## Marks -/

/-- The number of marks that start a set, over all buckets. -/
def setMarks (d : Dataset) : Nat := d.table.count .set + d.multi.count .set + d.errorBars.count .set

/-- Taking in a line keeps the law that every set but the first has a mark. -/
theorem setMarks_takeIn {d : Dataset} (h : d.setMarks = d.setTitles.length - 1) (line : Line) :
    (d.takeIn line).setMarks = (d.takeIn line).setTitles.length - 1 := by
  have hmarks : (d.takeIn line).setMarks = d.setMarks + (d.added line .table).count .set +
      (d.added line .multi).count .set + (d.added line .errorBars).count .set := by
    have htable := congrArg (List.count Entry.set) (bucket_takeIn d line .table)
    have hmulti := congrArg (List.count Entry.set) (bucket_takeIn d line .multi)
    have herror := congrArg (List.count Entry.set) (bucket_takeIn d line .errorBars)
    simp only [bucket, List.count_append] at htable hmulti herror
    simp only [setMarks, htable, hmulti, herror]
    omega
  rw [hmarks, h]
  cases line with
  | newSet title =>
    have htitles : (d.takeIn (.newSet title)).setTitles.length = d.setTitles.length + 1 := by
      simp [takeIn, setTitles_beginSet]
    rw [htitles]
    by_cases hs : d.setTitles = []
    · simp [added, hs]
    · have hlength := List.length_pos_iff.mpr hs
      cases hm : d.mode <;> simp [added, hs, hm] <;> omega
  | row r => cases hm : d.mode <;> simp [added, takeIn, addRow, hm]
  | mode m =>
    by_cases hs : m = .multi ∧ d.multi ≠ [] <;> simp [added, takeIn, setTitles_switchMode, hs]
  | _ => simp [added, takeIn]

end Dataset

/-! ## All lines -/

namespace Description

theorem ofLines_append_singleton (lines : List Text) (line : Text) :
    ofLines (lines ++ [line]) = (ofLines lines).feed line := by
  rw [ofLines_eq_foldl, List.foldl_append, ← ofLines_eq_foldl]
  rfl

theorem dataset_feed (d : Description) (line : Text) :
    (d.feed line).dataset = d.dataset.takeIn (Line.read line) := by
  rw [feed]
  cases Line.read line <;> rfl

/-- The data depends on the structural lines alone, and on nothing but what they say. -/
theorem dataset_ofLines (lines : List Text) :
    (ofLines lines).dataset =
      ((lines.map Line.read).filter Line.isStructural).foldl Dataset.takeIn {} := by
  induction lines using List.reverseRecOn with
  | nil => rfl
  | append_singleton lines line ih =>
    rw [ofLines_append_singleton, dataset_feed, ih, List.map_append, List.filter_append,
      List.foldl_append, List.map_singleton]
    cases hs : (Line.read line).isStructural with
    | true => rw [List.filter_cons_of_pos hs, List.filter_nil, List.foldl_cons, List.foldl_nil]
    | false =>
      rw [List.filter_cons_of_neg (by simp [hs]), List.filter_nil, List.foldl_nil,
        Dataset.takeIn_of_isStructural_eq_false _ hs]

/-- The grouping is the last one given. -/
theorem grouping_ofLines (lines : List Text) :
    (ofLines lines).grouping = lastGrouping lines := by
  induction lines using List.reverseRecOn with
  | nil => rfl
  | append_singleton lines line ih =>
    rw [ofLines_append_singleton, feed, lastGrouping_append, lastGrouping_singleton, ← ih]
    cases Line.read line <;> rfl

/-- A flag is given when a line gives it. -/
theorem flags_ofLines (lines : List Text) (f : Flag) :
    (ofLines lines).store.flags f = true ↔ Line.flag f ∈ lines.map Line.read := by
  induction lines using List.reverseRecOn with
  | nil => simp [ofLines_nil]
  | append_singleton lines line ih =>
    rw [ofLines_append_singleton, feed, List.map_append, List.mem_append, ← ih]
    cases hl : Line.read line with
    | flag g =>
      by_cases hg : f = g
      · simp [hl, hg, add, addM, Store.setFlag]
      · simp [hl, hg, add, addM, Store.setFlag]
    | _ => simp [hl, add, addM, Store.setSetting, Store.addRepeated, Store.ignoreOption,
        Store.ignoreDirective]

/-- A setting has the last value given to it. -/
theorem settings_ofLines (lines : List Text) (s : Setting) :
    (ofLines lines).store.settings s = lastValue s lines := by
  induction lines using List.reverseRecOn with
  | nil => rfl
  | append_singleton lines line ih =>
    rw [ofLines_append_singleton, feed, lastValue_append, lastValue_singleton, ← ih]
    cases Line.read line with
    | setting s' value =>
      by_cases hs : s = s'
      · simp [hs, Line.valueOf?, add, addM, Store.setSetting]
      · have hs' : ¬s' = s := fun h => hs h.symm
        simp [hs, hs', Line.valueOf?, add, addM, Store.setSetting]
    | _ => rfl

/-- A repeated option has all the values given to it, in order. -/
theorem repeated_ofLines (lines : List Text) (r : Repeated) :
    (ofLines lines).store.repeated r = allValues r lines := by
  induction lines using List.reverseRecOn with
  | nil => rfl
  | append_singleton lines line ih =>
    rw [ofLines_append_singleton, feed, allValues_append, allValues_singleton, ← ih]
    cases Line.read line with
    | repeated r' value =>
      by_cases hr : r = r'
      · subst hr
        simp [Line.addedTo?, add, addM, Store.addRepeated]
      · have hr' : ¬r' = r := fun h => hr h.symm
        simp [hr, hr', Line.addedTo?, add, addM, Store.addRepeated]
    | _ => exact (List.append_nil _).symm

/-- Lines that are part of the data or give a grouping say nothing about options. -/
theorem store_ofLines_eq_empty {lines : List Text}
    (h : ∀ line ∈ lines.map Line.read, line.isStructural = true ∨ line.grouping? ≠ none) :
    (ofLines lines).store = {} := by
  induction lines using List.reverseRecOn with
  | nil => rfl
  | append_singleton lines line ih =>
    rw [List.map_append] at h
    have hbefore := ih fun l hl => h l (List.mem_append_left _ hl)
    have hline := h (Line.read line) (by simp)
    rw [ofLines_append_singleton, feed, ← hbefore]
    cases hl : Line.read line with
    | newSet | mode | row | grouping => rfl
    | _ => simp [hl, Line.isStructural, Line.grouping?] at hline

/-! ## A grouping and then data -/

section GroupingFirst

variable {first : Text} {g : Grouping} {rest : List Text}

theorem store_ofLines_grouping_cons (hfirst : Line.read first = .grouping g)
    (hrest : ∀ line ∈ rest.map Line.read, line.isStructural = true) :
    (ofLines (first :: rest)).store = {} := by
  refine store_ofLines_eq_empty fun line hline => ?_
  rw [List.map_cons, hfirst] at hline
  rcases List.mem_cons.mp hline with rfl | hline
  · exact Or.inr (by simp [Line.grouping?])
  · exact Or.inl (hrest line hline)

theorem resolvedGrouping_ofLines_grouping_cons (hfirst : Line.read first = .grouping g)
    (hrest : ∀ line ∈ rest.map Line.read, line.isStructural = true) :
    (ofLines (first :: rest)).resolvedGrouping = g := by
  have hnone : lastGrouping rest = none := by
    rw [lastGrouping, List.getLast?_eq_none_iff, List.filterMap_eq_nil_iff]
    intro line hline
    have hs := hrest _ (List.mem_map_of_mem hline)
    cases hr : Line.read line with
    | grouping g' => exact absurd (hr ▸ hs) (by simp [Line.isStructural])
    | _ => rfl
  have hlast : lastGrouping ([first] ++ rest) = some g := by
    rw [lastGrouping_append, hnone, lastGrouping_singleton, hfirst]
    rfl
  rw [resolvedGrouping, grouping_ofLines, ← List.singleton_append, hlast]
  rfl

theorem dataset_ofLines_grouping_cons (hfirst : Line.read first = .grouping g)
    (hrest : ∀ line ∈ rest.map Line.read, line.isStructural = true) :
    (ofLines (first :: rest)).dataset = (rest.map Line.read).foldl Dataset.takeIn {} := by
  rw [dataset_ofLines, List.map_cons, hfirst, List.filter_cons_of_neg (by simp [Line.isStructural]),
    List.filter_eq_self.mpr hrest]

end GroupingFirst

/-! ## Where the entries of a bucket come from -/

theorem bucket_ofLines_append_singleton (lines : List Text) (line : Text) (m : Mode) :
    (ofLines (lines ++ [line])).dataset.bucket m =
      (ofLines lines).dataset.bucket m ++ (ofLines lines).dataset.added (Line.read line) m := by
  rw [ofLines_append_singleton, dataset_feed, Dataset.bucket_takeIn]

theorem exists_split_append_singleton {P : List Text → Text → Prop} {lines : List Text}
    {last : Text} :
    (∃ pre line post, lines ++ [last] = pre ++ line :: post ∧ P pre line) ↔
      (∃ pre line post, lines = pre ++ line :: post ∧ P pre line) ∨ P lines last := by
  constructor
  · rintro ⟨pre, line, post, h, hp⟩
    rcases append_singleton_eq_append_cons_iff.mp h with ⟨post', -, hlines⟩ | ⟨rfl, rfl, -⟩
    · exact .inl ⟨pre, line, post', hlines, hp⟩
    · exact .inr hp
  · rintro (⟨pre, line, post, rfl, hp⟩ | hp)
    · exact ⟨pre, line, post ++ [last], by simp, hp⟩
    · exact ⟨lines, last, [], rfl, hp⟩

theorem bucket_ofLines_nil (m : Mode) : (ofLines []).dataset.bucket m = [] := by
  cases m <;> rfl

/-- An entry of a bucket was put there by a line, in the state that the lines before it left. -/
theorem mem_bucket_ofLines {lines : List Text} {m : Mode} {e : Entry} :
    e ∈ (ofLines lines).dataset.bucket m ↔
      ∃ pre line post, lines = pre ++ line :: post ∧
        e ∈ (ofLines pre).dataset.added (Line.read line) m := by
  induction lines using List.reverseRecOn with
  | nil => simp [bucket_ofLines_nil]
  | append_singleton lines last ih =>
    rw [bucket_ofLines_append_singleton, List.mem_append, ih, exists_split_append_singleton]

/-- A set that is not the first leaves its mark in the bucket of the mode that is active then. -/
theorem set_mem_bucket_ofLines {lines : List Text} {m : Mode} :
    Entry.set ∈ (ofLines lines).dataset.bucket m ↔
      ∃ pre line post, lines = pre ++ line :: post ∧ (Line.read line).kind = .set ∧
        (ofLines pre).dataset.setTitles ≠ [] ∧ (ofLines pre).dataset.mode = m := by
  rw [mem_bucket_ofLines]
  refine exists_congr fun pre => exists_congr fun line => exists_congr fun post => ?_
  refine and_congr_right fun _ => ?_
  cases Line.read line <;> simp [Dataset.added, Line.kind]

/-- A row is in the bucket of the mode that was active when it was given. -/
theorem row_mem_bucket_ofLines {lines : List Text} {m : Mode} {r : Row} :
    Entry.row r ∈ (ofLines lines).dataset.bucket m ↔
      ∃ pre line post, lines = pre ++ line :: post ∧ Line.read line = .row r ∧
        (ofLines pre).dataset.mode = m := by
  rw [mem_bucket_ofLines]
  refine exists_congr fun pre => exists_congr fun line => exists_congr fun post => ?_
  refine and_congr_right fun _ => ?_
  cases Line.read line with
  | row r' => simp [Dataset.added, and_comm, eq_comm (a := r)]
  | _ => simp [Dataset.added]

/-- Whether one of the lines puts something into the bucket of a mode: a row, or a set that is not
the first. -/
def Fills (lines : List Text) (m : Mode) : Prop :=
  ∃ pre line post, lines = pre ++ line :: post ∧ (ofLines pre).dataset.mode = m ∧
    ((Line.read line).kind = .data ∨
      (Line.read line).kind = .set ∧ (ofLines pre).dataset.setTitles ≠ [])

/-- The marks between groups do not fill a bucket, since there is none before something else. -/
theorem bucket_ofLines_ne_nil_iff {lines : List Text} {m : Mode} :
    (ofLines lines).dataset.bucket m ≠ [] ↔ Fills lines m := by
  induction lines using List.reverseRecOn with
  | nil => simp [bucket_ofLines_nil, Fills]
  | append_singleton lines last ih =>
    rw [Fills, exists_split_append_singleton, ← Fills, ← ih, bucket_ofLines_append_singleton,
      ne_eq, List.append_eq_nil_iff, not_and_or]
    cases Line.read last with
    | mode m' =>
      -- the mark between groups is the one entry that is neither a row nor a set, and it only comes
      -- where something is already
      by_cases hadd : m' = .multi ∧ m = .multi ∧ (ofLines lines).dataset.multi ≠ []
      · have hmulti : (ofLines lines).dataset.bucket m ≠ [] := by
          rw [hadd.2.1]
          exact hadd.2.2
        simp [hmulti]
      · rw [Dataset.added, if_neg hadd]
        simp [Line.kind]
    | _ => simp [Dataset.added, Line.kind, and_comm]

/-- Over all buckets there is one mark for every set but the first. -/
theorem setMarks_ofLines (lines : List Text) :
    (ofLines lines).dataset.setMarks = (ofLines lines).dataset.setTitles.length - 1 := by
  induction lines using List.reverseRecOn with
  | nil => rfl
  | append_singleton lines line ih =>
    rw [ofLines_append_singleton, dataset_feed]
    exact Dataset.setMarks_takeIn ih (Line.read line)

end Description
end ChartScript
