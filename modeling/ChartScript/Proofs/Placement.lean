import ChartScript.Proofs.Compilation

/-!
# Where options stand does not matter

The outcome of a compilation, its warnings aside, depends on what the lines say about data, grouping
and options, and not on where they stand or on what else is written between them.  People move
options to the top of a file or to its end, and comment lines out; this is what they rely on.

It is not true that lines can be permuted.  The rows, modes and sets of a chart have an order, the
last of several groupings counts, and so does the last of several values of a setting, while all
values of a repeated option count in their order.  `SameReading` is the relation that remains when
each of these is respected: the structural lines agree one by one, and the others agree on what they
settle.  It is an equivalence by its form, and the three things that one does to a file are
instances: putting in lines that say nothing, changing the blanks around lines, and moving options
past the data.

Warnings are left out on purpose, by `outcome`.  They are about lines that were ignored, and such
lines are exactly what may come and go.  The place where a fault is reported stays in, as it is the
name of the source and not a line number.

The proof is short because a script is a function of a few parts of a description
(`Description.script_congr`) and each part is a function of the lines (`Proofs.Collection`);
`SameReading` has one field for each.
-/

set_option autoImplicit false

namespace ChartScript

/-! ## Outcomes -/

/-- A failure without its warnings. -/
def CompileFailure.bare : CompileFailure → CompileFailure
  | .reported report => .reported { report with warnings := [] }
  | .unreported fault => .unreported fault

/-- What a compilation gives apart from its warnings. -/
def outcome (lines : List Text) (options : CompileOptions) : Except CompileFailure Script :=
  match compile lines options with
  | .ok compiled => .ok compiled.script
  | .error failure => .error failure.bare

/-- Where a fault is reported does not depend on the description, its warnings aside. -/
theorem Description.bare_failure_congr (d e : Description) (sourceName : Option Text)
    (fault : CompileFault) :
    (d.failure sourceName fault).bare = (e.failure sourceName fault).bare := by
  rw [failure, failure]
  cases fault.report? <;> rfl

/-! ## Saying the same -/

/-- Whether a line, as it is written, is structural. -/
def isStructuralText (line : Text) : Bool := (Line.read line).isStructural

/-- The structural lines, without the blanks around them. -/
def structuralLines (lines : List Text) : List Text :=
  (lines.filter isStructuralText).map Text.strip

theorem structuralLines_append (a b : List Text) :
    structuralLines (a ++ b) = structuralLines a ++ structuralLines b := by
  rw [structuralLines, List.filter_append, List.map_append]
  rfl

/-- Whether a line says nothing: it is blank, a comment, or speaks of what does not exist. -/
def Line.isNoise : Line → Bool
  | .blank | .comment | .unknownOption .. | .unknownDirective _ => true
  | _ => false

/-- A structural line gives no grouping and no values. -/
theorem Line.silent_of_isStructural (line : Line) (h : line.isStructural = true) :
    line.grouping? = none ∧ (∀ s, line.valueOf? s = none) ∧ ∀ r, line.addedTo? r = none := by
  cases line with
  | newSet | mode | row => exact ⟨rfl, fun _ => rfl, fun _ => rfl⟩
  | _ => exact absurd h (by simp [isStructural])

/-- Two lists of lines that say the same. -/
structure SameReading (a b : List Text) : Prop where
  /-- The structural lines agree one by one. -/
  structural : structuralLines a = structuralLines b
  /-- The last grouping is the same, or both have none. -/
  grouping : lastGrouping a = lastGrouping b
  /-- The same flags are given. -/
  flags : ∀ f, Line.flag f ∈ a.map Line.read ↔ Line.flag f ∈ b.map Line.read
  /-- Every setting has the same last value, or none in both. -/
  settings : ∀ s, lastValue s a = lastValue s b
  /-- Every repeated option has the same values in the same order. -/
  repeated : ∀ r, allValues r a = allValues r b

namespace SameReading

/-- Structural lines that agree as texts say the same. -/
theorem filter_read (lines : List Text) :
    (lines.map Line.read).filter Line.isStructural =
      (structuralLines lines).map Line.ofStripped := by
  rw [structuralLines, List.filter_map, List.map_map]
  rfl

/-- Lists that say the same have the same outcome. -/
theorem outcome_eq {a b : List Text} {options other : CompileOptions}
    (h : SameReading (a ++ options.extra) (b ++ other.extra))
    (hbackend : other.backend = options.backend)
    (hname : other.sourceName = options.sourceName) : outcome a options = outcome b other := by
  have hdata : (Description.ofLines (a ++ options.extra)).dataset =
      (Description.ofLines (b ++ other.extra)).dataset := by
    rw [Description.dataset_ofLines, Description.dataset_ofLines, filter_read, filter_read,
      h.structural]
  have hgrouping : (Description.ofLines (a ++ options.extra)).grouping =
      (Description.ofLines (b ++ other.extra)).grouping := by
    rw [Description.grouping_ofLines, Description.grouping_ofLines, h.grouping]
  have hflags : (Description.ofLines (a ++ options.extra)).store.flags =
      (Description.ofLines (b ++ other.extra)).store.flags := by
    funext f
    rw [Bool.eq_iff_iff, Description.flags_ofLines, Description.flags_ofLines]
    exact h.flags f
  have hsettings : (Description.ofLines (a ++ options.extra)).store.settings =
      (Description.ofLines (b ++ other.extra)).store.settings := by
    funext s
    rw [Description.settings_ofLines, Description.settings_ofLines, h.settings s]
  have hrepeated : (Description.ofLines (a ++ options.extra)).store.repeated =
      (Description.ofLines (b ++ other.extra)).store.repeated := by
    funext r
    rw [Description.repeated_ofLines, Description.repeated_ofLines, h.repeated r]
  have hscript := Description.script_congr hdata hgrouping hflags hsettings hrepeated
    options.backend
  rw [outcome, outcome, compile_eq, compile_eq, hbackend, hname, hscript]
  cases (Description.ofLines (b ++ other.extra)).script options.backend with
  | ok script => rfl
  | error fault => exact congrArg Except.error (Description.bare_failure_congr _ _ _ fault)

/-! ## Lists built from parts -/

theorem refl (a : List Text) : SameReading a a :=
  ⟨rfl, rfl, fun _ => Iff.rfl, fun _ => rfl, fun _ => rfl⟩

/-- Lists that say the same part by part say the same. -/
theorem append {a b a' b' : List Text} (h : SameReading a b) (h' : SameReading a' b') :
    SameReading (a ++ a') (b ++ b') where
  structural := by
    rw [structuralLines_append, structuralLines_append, h.structural, h'.structural]
  grouping := by rw [lastGrouping_append, lastGrouping_append, h.grouping, h'.grouping]
  flags f := by
    rw [List.map_append, List.map_append, List.mem_append, List.mem_append, h.flags f, h'.flags f]
  settings s := by rw [lastValue_append, lastValue_append, h.settings s, h'.settings s]
  repeated r := by rw [allValues_append, allValues_append, h.repeated r, h'.repeated r]

/-- Lines that say nothing say the same as no lines. -/
theorem of_isNoise {noise : List Text} (h : ∀ line ∈ noise, (Line.read line).isNoise = true) :
    SameReading noise [] := by
  induction noise with
  | nil => exact refl []
  | cons line rest ih =>
    have hline : (Line.read line).isNoise = true := h line (by simp)
    have hone : SameReading [line] [] := by
      cases hr : Line.read line with
      | blank | comment | unknownOption | unknownDirective =>
        refine ⟨?_, ?_, fun f => ?_, fun s => ?_, fun r => ?_⟩
        · simp [structuralLines, isStructuralText, hr, Line.isStructural]
        · rw [lastGrouping_singleton, hr]
          rfl
        · simp [hr]
        · rw [lastValue_singleton, hr]
          rfl
        · rw [allValues_singleton, hr]
          rfl
      | _ => exact absurd (hr ▸ hline) (by simp [Line.isNoise])
    exact hone.append (ih fun l hl => h l (by simp [hl]))

/-- Blanks around a line do not change what it says. -/
theorem of_map_strip {a b : List Text} (h : a.map Text.strip = b.map Text.strip) :
    SameReading a b := by
  induction a generalizing b with
  | nil => rw [List.map_eq_nil_iff.mp h.symm]; exact refl []
  | cons x a ih =>
    cases b with
    | nil => exact absurd h (by simp)
    | cons y b =>
      rw [List.map_cons, List.map_cons, List.cons.injEq] at h
      have hread : Line.read x = Line.read y := by rw [Line.read, Line.read, h.1]
      have hone : SameReading [x] [y] := by
        refine ⟨?_, ?_, fun f => ?_, fun s => ?_, fun r => ?_⟩
        · cases hs : (Line.read y).isStructural <;>
            simp [structuralLines, isStructuralText, hread, hs, h.1]
        · rw [lastGrouping_singleton, lastGrouping_singleton, hread]
        · rw [List.map_singleton, List.map_singleton, hread]
        · rw [lastValue_singleton, lastValue_singleton, hread]
        · rw [allValues_singleton, allValues_singleton, hread]
      exact hone.append (ih h.2)

/-- What structural lines do not speak of is found among the other lines. -/
theorem filterMap_filter_not {α : Type} {f : Line → Option α}
    (hf : ∀ line : Line, line.isStructural = true → f line = none) (lines : List Text) :
    (lines.filter fun line => !isStructuralText line).filterMap (fun line => f (Line.read line)) =
      lines.filterMap fun line => f (Line.read line) := by
  have hskip : (fun line => if (!isStructuralText line) = true then f (Line.read line) else none) =
      fun line => f (Line.read line) := by
    funext line
    cases hs : isStructuralText line with
    | true => simp [hf _ hs]
    | false => simp
  rw [List.filterMap_filter, hskip]

theorem mem_map_read_filter_not (f : Flag) (lines : List Text) :
    Line.flag f ∈ (lines.filter fun line => !isStructuralText line).map Line.read ↔
      Line.flag f ∈ lines.map Line.read := by
  simp only [List.mem_map, List.mem_filter]
  constructor
  · rintro ⟨line, ⟨hmem, -⟩, hline⟩
    exact ⟨line, hmem, hline⟩
  · rintro ⟨line, hmem, hline⟩
    exact ⟨line, ⟨hmem, by rw [isStructuralText, hline]; rfl⟩, hline⟩

/-- Lines can be moved past structural lines, as long as the structural lines keep their order and
the others keep theirs. -/
theorem of_filter {a b : List Text} (hdata : a.filter isStructuralText = b.filter isStructuralText)
    (hrest : (a.filter fun line => !isStructuralText line) =
      b.filter fun line => !isStructuralText line) : SameReading a b where
  structural := by rw [structuralLines, structuralLines, hdata]
  grouping := by
    have hf : ∀ line : Line, line.isStructural = true → line.grouping? = none :=
      fun line hl => (line.silent_of_isStructural hl).1
    rw [lastGrouping, lastGrouping, ← filterMap_filter_not hf a, hrest, filterMap_filter_not hf b]
  flags f := by rw [← mem_map_read_filter_not, hrest, mem_map_read_filter_not]
  settings s := by
    have hf : ∀ line : Line, line.isStructural = true → line.valueOf? s = none :=
      fun line hl => (line.silent_of_isStructural hl).2.1 s
    rw [lastValue, lastValue, ← filterMap_filter_not hf a, hrest, filterMap_filter_not hf b]
  repeated r := by
    have hf : ∀ line : Line, line.isStructural = true → line.addedTo? r = none :=
      fun line hl => (line.silent_of_isStructural hl).2.2 r
    rw [allValues, allValues, ← filterMap_filter_not hf a, hrest, filterMap_filter_not hf b]

/-- A line that gives a value to a setting says nothing else. -/
theorem of_read_eq_setting {line : Text} {s : Setting} {value : Text}
    (h : Line.read line = .setting s value) :
    structuralLines [line] = [] ∧ lastGrouping [line] = none ∧
      (∀ f, Line.flag f ∉ [line].map Line.read) ∧
      (∀ s', lastValue s' [line] = if s = s' then some value else none) ∧
      ∀ r, allValues r [line] = [] := by
  refine ⟨?_, ?_, fun f => ?_, fun s' => ?_, fun r => ?_⟩
  · simp [structuralLines, isStructuralText, h, Line.isStructural]
  · rw [lastGrouping_singleton, h]
    rfl
  · simp [h]
  · rw [lastValue_singleton, h]
    rfl
  · rw [allValues_singleton, h]
    rfl

/-- The value of a setting can be given later, if no other value is given to it in between. -/
theorem of_setting_moved {line : Text} {s : Setting} {value : Text}
    (h : Line.read line = .setting s value) {mid : List Text} (hmid : lastValue s mid = none) :
    SameReading ([line] ++ mid) (mid ++ [line]) := by
  obtain ⟨hstructural, hgrouping, hflags, hsettings, hrepeated⟩ := of_read_eq_setting h
  refine ⟨?_, ?_, fun f => ?_, fun s' => ?_, fun r => ?_⟩
  · rw [structuralLines_append, structuralLines_append, hstructural, List.append_nil,
      List.nil_append]
  · rw [lastGrouping_append, lastGrouping_append, hgrouping, Option.or_none, Option.none_or]
  · rw [List.map_append, List.map_append, List.mem_append, List.mem_append, or_comm]
  · rw [lastValue_append, lastValue_append, hsettings]
    split
    · next heq => rw [← heq, hmid, Option.or_none, Option.none_or]
    · rw [Option.or_none, Option.none_or]
  · rw [allValues_append, allValues_append, hrepeated, List.append_nil, List.nil_append]

/-- A value of a setting that a later one replaces does not count. -/
theorem of_setting_replaced {line other : Text} {s : Setting} {value value' : Text}
    (h : Line.read line = .setting s value) (h' : Line.read other = .setting s value')
    (mid : List Text) : SameReading ([line] ++ (mid ++ [other])) (mid ++ [other]) := by
  obtain ⟨hstructural, hgrouping, hflags, hsettings, hrepeated⟩ := of_read_eq_setting h
  obtain ⟨-, -, -, hsettings', -⟩ := of_read_eq_setting h'
  refine ⟨?_, ?_, fun f => ?_, fun s' => ?_, fun r => ?_⟩
  · rw [structuralLines_append, hstructural, List.nil_append]
  · rw [lastGrouping_append, hgrouping, Option.or_none]
  · rw [List.map_append, List.mem_append, or_iff_right (hflags f)]
  · rw [lastValue_append, lastValue_append s' mid, hsettings, hsettings']
    split
    · rw [Option.some_or, Option.some_or]
    · rw [Option.or_none]
  · rw [allValues_append, hrepeated, List.nil_append]

end SameReading

/-! ## The law -/

/-- **The outcome depends on what the lines say.**  Lists that say the same have the same script,
or fail with the same report.  So lines that say nothing can be put in anywhere, blanks around
lines do not matter, and the lines of options can be moved past those of the data. -/
theorem outcome_depends_on_reading (options : CompileOptions) :
    (∀ (a b : List Text) (other : CompileOptions), other.backend = options.backend →
      other.sourceName = options.sourceName →
      SameReading (a ++ options.extra) (b ++ other.extra) → outcome a options = outcome b other) ∧
    (∀ pre noise post : List Text, (∀ line ∈ noise, (Line.read line).isNoise = true) →
      outcome (pre ++ noise ++ post) options = outcome (pre ++ post) options) ∧
    (∀ a b : List Text, a.map Text.strip = b.map Text.strip →
      outcome a options = outcome b options) ∧
    (∀ a b : List Text, a.filter isStructuralText = b.filter isStructuralText →
      (a.filter fun line => !isStructuralText line) =
        (b.filter fun line => !isStructuralText line) →
      outcome a options = outcome b options) := by
  refine ⟨fun a b other hbackend hname h => h.outcome_eq hbackend hname, ?_, ?_, ?_⟩
  · intro pre noise post hnoise
    have hdrop : SameReading (pre ++ noise ++ post) (pre ++ post) := by
      have h := ((SameReading.refl pre).append (SameReading.of_isNoise hnoise)).append (.refl post)
      rwa [List.append_nil] at h
    exact (hdrop.append (.refl options.extra)).outcome_eq rfl rfl
  · intro a b h
    exact ((SameReading.of_map_strip h).append (.refl options.extra)).outcome_eq rfl rfl
  · intro a b hdata hrest
    exact ((SameReading.of_filter hdata hrest).append (.refl options.extra)).outcome_eq rfl rfl

/-- A description with its options in front; what it says in another order and with other lines; the
description with lines put in that say nothing, with blanks around its lines, and with its options
moved. -/
theorem outcome_of_scattered_options :
    let tidy : List Text := ["title=T", "=gridx", "a 1", "=multi", "a 2"]
    let scattered : List Text :=
      ["# head", " a 1", "title=U", "=multi", "=nope", "a 2 ", "=gridx", "title=T", "=gridx"]
    let noise : List Text := ["# head", " ", "=nope", "colour=red"]
    let padded : List Text := [" title=T", "=gridx ", "\ta 1", " =multi ", "a 2"]
    let moved : List Text := ["a 1", "title=T", "=multi", "a 2", "=gridx"]
    (SameReading (tidy ++ []) (scattered ++ []) ∧ outcome tidy {} = outcome scattered {}) ∧
    ((∀ line ∈ noise, (Line.read line).isNoise = true) ∧
      outcome (tidy.take 3 ++ noise ++ tidy.drop 3) {} = outcome tidy {}) ∧
    (padded.map Text.strip = tidy.map Text.strip ∧ outcome padded {} = outcome tidy {}) ∧
    (moved.filter isStructuralText = tidy.filter isStructuralText ∧
      outcome moved {} = outcome tidy {}) := by
  intro tidy scattered noise padded moved
  obtain ⟨hsame, hnoise, hstrip, hmove⟩ := outcome_depends_on_reading {}
  have h : SameReading (tidy ++ []) (scattered ++ []) := by
    refine ⟨by decide, by decide, fun f => ?_, fun s => ?_, fun r => ?_⟩
    · cases f <;> decide
    · cases s <;> decide
    · cases r <;> decide
  have hsilent : ∀ line ∈ noise, (Line.read line).isNoise = true := by decide
  have hpadded : padded.map Text.strip = tidy.map Text.strip := by decide
  have hdata : moved.filter isStructuralText = tidy.filter isStructuralText := by decide
  exact ⟨⟨h, hsame tidy scattered {} rfl rfl h⟩,
    ⟨hsilent, hnoise (tidy.take 3) noise (tidy.drop 3) hsilent⟩,
    ⟨hpadded, hstrip padded tidy hpadded⟩, ⟨hdata, hmove moved tidy hdata (by decide)⟩⟩

end ChartScript
