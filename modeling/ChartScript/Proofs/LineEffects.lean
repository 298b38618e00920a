import ChartScript.Proofs.Collection
import ChartScript.Proofs.Reading

/-!
# What a line changes

A description has several parts, and a line of one kind must leave alone what is the business of
another kind.  A title that also changed the mode, or an ignored option that was stored after all,
would be a mistake that no test of the title or of the warning shows.  So the effect of a line is
stated together with a frame: what it changes, and that it changes nothing else.

For the frame the parts have to be listed.  `Part` does so, with one part for each option that the
store can hold and one for each bucket, and `Description.eq_of_same` says that two descriptions of
as many lines which agree in all of them are equal.  Without it the list could be too short and
`ChangesOnly` would promise too little; with it, a field that is added to a description makes this
lemma fail.

What is written on a line is kept apart from what it does.  `Line.WrittenAs` relates a kind of line
to its text, in the direction that an author of a chart needs: this text says that.
`LineKind.Effect` then takes the text and the descriptions before and after, and mentions no reading
at all.  The statement is for one line and every description, so it is a step lemma; runs are in
`Proofs.Collection`.

Classification deserves its own statement, because it is by elimination: a line is data when it is
nothing else.  `kind_read_eq_data_iff` says what a line must not look like, and in `feed_effect` it
stands beside the fact that blanks around a line do not matter.
-/

set_option autoImplicit false

namespace ChartScript

/-! ## Parts of a description -/

/-- The parts of a description, the number of lines apart. -/
inductive Part where
  /-- What the store holds for an option. -/
  | value (key : Key)
  | unknownDirectives
  | unknownOptions
  | grouping
  | mode
  | setTitles
  | bucket (mode : Mode)
  deriving DecidableEq, Repr

/-- Whether two descriptions agree in a part. -/
def Part.Same (before after : Description) : Part → Prop
  | .value key => after.store.value? key = before.store.value? key
  | .unknownDirectives => after.store.unknownDirectives = before.store.unknownDirectives
  | .unknownOptions => after.store.unknownOptions = before.store.unknownOptions
  | .grouping => after.grouping = before.grouping
  | .mode => after.dataset.mode = before.dataset.mode
  | .setTitles => after.dataset.setTitles = before.dataset.setTitles
  | .bucket m => after.dataset.bucket m = before.dataset.bucket m

namespace Store

theorem flags_eq_of_value? {a b : Store} {f : Flag} (h : b.value? (.flag f) = a.value? (.flag f)) :
    b.flags f = a.flags f := by
  simp only [value?] at h
  cases ha : a.flags f <;> cases hb : b.flags f <;> simp [ha, hb] at h ⊢

theorem settings_eq_of_value? {a b : Store} {s : Setting}
    (h : b.value? (.setting s) = a.value? (.setting s)) : b.settings s = a.settings s :=
  Option.map_injective (fun _ _ hvalue => StoredValue.one.inj hvalue) h

theorem repeated_eq_of_value? {a b : Store} {r : Repeated}
    (h : b.value? (.repeated r) = a.value? (.repeated r)) : b.repeated r = a.repeated r := by
  simp only [value?] at h
  cases ha : a.repeated r <;> cases hb : b.repeated r <;> simp_all

/-- What a store holds for the options, and what does not exist, is all there is to it. -/
theorem eq_of_value? {a b : Store} (hvalue : ∀ key, b.value? key = a.value? key)
    (hdirectives : b.unknownDirectives = a.unknownDirectives)
    (hoptions : b.unknownOptions = a.unknownOptions) : b = a := by
  have hflags : b.flags = a.flags := funext fun f => flags_eq_of_value? (hvalue (.flag f))
  have hsettings : b.settings = a.settings :=
    funext fun s => settings_eq_of_value? (hvalue (.setting s))
  have hrepeated : b.repeated = a.repeated :=
    funext fun r => repeated_eq_of_value? (hvalue (.repeated r))
  cases a
  cases b
  simp_all

end Store

theorem Dataset.eq_of_bucket {a b : Dataset} (hmode : b.mode = a.mode)
    (htitles : b.setTitles = a.setTitles) (hbucket : ∀ m, b.bucket m = a.bucket m) : b = a := by
  have htable : b.table = a.table := hbucket .table
  have hmulti : b.multi = a.multi := hbucket .multi
  have herror : b.errorBars = a.errorBars := hbucket .errorBars
  cases a
  cases b
  simp_all

/-- The parts of a description and the number of lines are all there is to it. -/
theorem Description.eq_of_same {a b : Description} (hparts : ∀ part : Part, part.Same a b)
    (hcount : b.lineCount = a.lineCount) : b = a := by
  have hstore : b.store = a.store := Store.eq_of_value? (fun key => hparts (.value key))
    (hparts .unknownDirectives) (hparts .unknownOptions)
  have hgrouping : b.grouping = a.grouping := hparts .grouping
  have hdataset : b.dataset = a.dataset := Dataset.eq_of_bucket (hparts .mode)
    (hparts .setTitles) fun m => hparts (.bucket m)
  cases a
  cases b
  simp_all

/-- Nothing changes but the listed parts, and perhaps the number of lines. -/
def Description.ChangesOnly (before after : Description) (parts : List Part) : Prop :=
  ∀ part ∉ parts, part.Same before after

/-! ## What is written on a line -/

namespace Line

/-- Whether a text has the form of an option: a name, an equals sign and a value that stays on one
line. -/
def IsOptionText (text : Text) : Prop :=
  ∃ name value : Text, name ≠ [] ∧ (∀ c ∈ name, isNameChar c = true) ∧
    CodePoint.char '\n' ∉ value ∧ text = name ++ CodePoint.char '=' :: value

/-- How a line is written that says something, blanks around it aside. -/
def WrittenAs (text : Text) : Line → Prop
  | .blank => text = []
  | .comment => text.head? = some (CodePoint.char '#')
  | .newSet title => text = setLine title
  | .setting s value => text = Text.ofString s.name ++ CodePoint.char '=' :: value
  | .repeated r value => text = Text.ofString r.name ++ CodePoint.char '=' :: value
  | .unknownOption name value => text = name ++ CodePoint.char '=' :: value
  | .grouping g => ∃ body, text = CodePoint.char '=' :: body ∧ Grouping.match? body = some g
  | .flag f => text = CodePoint.char '=' :: Text.ofString f.name
  | .mode m => text = CodePoint.char '=' :: Text.ofString m.name
  | .unknownDirective name => text = CodePoint.char '=' :: name
  | .row r => r = Row.read text

/-- What is found by a name has that name. -/
theorem name_of_find? {α : Type} {name : α → String} {items : List α} {text : Text} {a : α}
    (h : items.find? (fun item => Text.ofString (name item) == text) = some a) :
    Text.ofString (name a) = text := by
  simpa using List.find?_some h

theorem writtenAs_ofDirective (body : Text) :
    (ofDirective body).WrittenAs (CodePoint.char '=' :: body) := by
  rw [ofDirective]
  split
  · next g hg => exact ⟨body, rfl, hg⟩
  · split
    · next f hf => exact congrArg _ (name_of_find? hf).symm
    · split
      · next m hm => exact congrArg _ (name_of_find? hm).symm
      · rfl

theorem writtenAs_ofOption (name value : Text) :
    (ofOption name value).WrittenAs (name ++ CodePoint.char '=' :: value) := by
  rw [ofOption]
  split
  · next hset =>
    rw [hset]
    rfl
  · split
    · next s hs =>
      rw [← name_of_find? hs]
      rfl
    · next r hr =>
      rw [← name_of_find? hr]
      rfl
    · rfl

/-- What is read off a line is written on it. -/
theorem writtenAs_read (line : Text) : (read line).WrittenAs line.strip := by
  rw [read]
  generalize line.strip = text
  unfold ofStripped
  split
  · rfl
  · rfl
  · exact writtenAs_ofDirective _
  · split
    · next hparts =>
      rw [(eq_append_of_optionParts? hparts).1]
      exact writtenAs_ofOption _ _
    · rfl

theorem optionParts?_eq_none_iff {text : Text} : optionParts? text = none ↔ ¬IsOptionText text := by
  rw [Option.eq_none_iff_forall_ne_some, IsOptionText]
  simp only [Prod.forall, ne_eq, optionParts?_eq_some_iff, not_exists]
  refine forall_congr' fun name => forall_congr' fun value => not_congr ?_
  tauto

theorem kind_eq_data_iff {line : Line} : line.kind = .data ↔ ∃ r, line = .row r := by
  cases line <;> simp [kind]

/-- A line is data when there is something on it that starts neither a comment nor a directive and
does not have the form of an option. -/
theorem kind_read_eq_data_iff (line : Text) :
    (read line).kind = .data ↔
      line.strip ≠ [] ∧ line.strip.head? ≠ some (CodePoint.char '#') ∧
        line.strip.head? ≠ some (CodePoint.char '=') ∧ ¬IsOptionText line.strip := by
  have hhead : (∀ c ∈ line.strip.head?, c ≠ CodePoint.char '#' ∧ c ≠ CodePoint.char '=') ↔
      line.strip.head? ≠ some (CodePoint.char '#') ∧
        line.strip.head? ≠ some (CodePoint.char '=') := by
    cases line.strip.head? <;> simp
  rw [kind_eq_data_iff, read]
  simp only [ofStripped_eq_row_iff, hhead, optionParts?_eq_none_iff, exists_and_left,
    exists_eq, and_true, and_assoc]

end Line

/-! ## The effect of a line -/

/-- What a line of a kind does to a description.  `text` is the line without the blanks around
it. -/
def LineKind.Effect (text : Text) (before after : Description) : LineKind → Prop
  | .blank | .comment => before.ChangesOnly after []
  | .option =>
    (∃ (s : Setting) (value : Text), text = Text.ofString s.name ++ CodePoint.char '=' :: value ∧
      after.store.value? (.setting s) = some (.one value) ∧
      before.ChangesOnly after [.value (.setting s)]) ∨
    ∃ (r : Repeated) (value : Text), text = Text.ofString r.name ++ CodePoint.char '=' :: value ∧
      after.store.value? (.repeated r) = some (.many (before.store.repeated r ++ [value])) ∧
      before.ChangesOnly after [.value (.repeated r)]
  | .flag =>
    ∃ f : Flag, text = CodePoint.char '=' :: Text.ofString f.name ∧
      after.store.value? (.flag f) = some .given ∧ before.ChangesOnly after [.value (.flag f)]
  | .ignored =>
    ∃ i : Ignored, i.describe = text ∧
      (after.store.unknownDirectives = before.store.unknownDirectives ++ [i] ∧
          before.ChangesOnly after [.unknownDirectives] ∨
        after.store.unknownOptions = before.store.unknownOptions ++ [i] ∧
          before.ChangesOnly after [.unknownOptions])
  | .grouping =>
    ∃ (body : Text) (g : Grouping), text = CodePoint.char '=' :: body ∧
      Grouping.match? body = some g ∧ after.grouping = some g ∧
      before.ChangesOnly after [.grouping]
  | .set =>
    ∃ title marks, text = Line.setLine title ∧
      after.dataset.setTitles = before.dataset.setTitles ++ [title] ∧
      after.dataset.bucket before.dataset.mode =
        before.dataset.bucket before.dataset.mode ++ marks ∧
      (marks = [] ∨ marks = [.set]) ∧
      before.ChangesOnly after [.setTitles, .bucket before.dataset.mode]
  | .dataMode =>
    ∃ (m : Mode) (marks : List Entry), text = CodePoint.char '=' :: Text.ofString m.name ∧
      after.dataset.mode = m ∧ after.dataset.multi = before.dataset.multi ++ marks ∧
      (marks = [] ∨ marks = [.group]) ∧ before.ChangesOnly after [.mode, .bucket .multi]
  | .data =>
    after.dataset.bucket before.dataset.mode =
        before.dataset.bucket before.dataset.mode ++ [.row (Row.read text)] ∧
      before.ChangesOnly after [.bucket before.dataset.mode]

/-! ## One line -/

namespace Store

theorem value?_setFlag (store : Store) (f : Flag) (key : Key) :
    (store.setFlag f).value? key = if key = .flag f then some .given else store.value? key := by
  cases key with
  | flag g => by_cases h : g = f <;> simp [value?, setFlag, h]
  | setting s => exact (if_neg (by simp)).symm
  | repeated r => exact (if_neg (by simp)).symm

theorem value?_setSetting (store : Store) (s : Setting) (value : Text) (key : Key) :
    (store.setSetting s value).value? key =
      if key = .setting s then some (.one value) else store.value? key := by
  cases key with
  | flag f => exact (if_neg (by simp)).symm
  | setting t => by_cases h : t = s <;> simp [value?, setSetting, h]
  | repeated r => exact (if_neg (by simp)).symm

theorem value?_addRepeated (store : Store) (r : Repeated) (value : Text) (key : Key) :
    (store.addRepeated r value).value? key =
      if key = .repeated r then some (.many (store.repeated r ++ [value]))
      else store.value? key := by
  cases key with
  | flag f => exact (if_neg (by simp)).symm
  | setting s => exact (if_neg (by simp)).symm
  | repeated q => by_cases h : q = r <;> simp [value?, addRepeated, h]

end Store

namespace Description

/-- A store in which one option has a new value. -/
theorem changesOnly_value {d : Description} {store : Store} {key : Key} {stored : StoredValue}
    (hvalue : ∀ k, store.value? k = if k = key then some stored else d.store.value? k)
    (hdirectives : store.unknownDirectives = d.store.unknownDirectives)
    (hoptions : store.unknownOptions = d.store.unknownOptions) (lineCount : Nat) :
    store.value? key = some stored ∧ d.ChangesOnly { d with store, lineCount } [.value key] := by
  refine ⟨(hvalue key).trans (if_pos rfl), fun part hpart => ?_⟩
  cases part with
  | value k => exact (hvalue k).trans (if_neg (by simpa using hpart))
  | unknownDirectives => exact hdirectives
  | unknownOptions => exact hoptions
  | _ => rfl

/-- The start of a set is the business of the titles and of the active bucket. -/
theorem changesOnly_newSet (d : Description) (title : Text) :
    d.ChangesOnly (d.add (.newSet title)) [.setTitles, .bucket d.dataset.mode] := by
  intro part hpart
  cases part with
  | mode => exact Dataset.mode_beginSet d.dataset title
  | setTitles => exact absurd (by simp) hpart
  | bucket m =>
    have hm : d.dataset.mode ≠ m := fun heq => hpart (by simp [heq])
    refine (Dataset.bucket_takeIn d.dataset (.newSet title) m).trans ?_
    rw [Dataset.added, if_neg fun h => hm h.2, List.append_nil]
  | _ => rfl

theorem changesOnly_mode (d : Description) (m : Mode) :
    d.ChangesOnly (d.add (.mode m)) [.mode, .bucket .multi] := by
  intro part hpart
  cases part with
  | mode => exact absurd (by simp) hpart
  | setTitles => exact Dataset.setTitles_switchMode d.dataset m
  | bucket other =>
    have hother : other ≠ .multi := fun heq => hpart (by simp [heq])
    refine (Dataset.bucket_takeIn d.dataset (.mode m) other).trans ?_
    rw [Dataset.added, if_neg fun h => hother h.2.1, List.append_nil]
  | _ => rfl

theorem changesOnly_row (d : Description) (r : Row) :
    d.ChangesOnly (d.add (.row r)) [.bucket d.dataset.mode] := by
  intro part hpart
  cases part with
  | mode => exact Dataset.mode_push d.dataset d.dataset.mode (.row r)
  | setTitles => exact Dataset.setTitles_push d.dataset d.dataset.mode (.row r)
  | bucket m => exact Dataset.bucket_push_of_ne _ _ fun heq => hpart (by simp [heq])
  | _ => rfl

/-- What a line says takes effect as its kind announces. -/
theorem effect_add {text : Text} {line : Line} (h : line.WrittenAs text) (d : Description) :
    line.kind.Effect text d (d.add line) := by
  cases line with
  | blank | comment =>
    intro part _
    cases part <;> rfl
  | setting s value =>
    exact .inl ⟨s, value, h, changesOnly_value (Store.value?_setSetting _ s value) rfl rfl _⟩
  | repeated r value =>
    exact .inr ⟨r, value, h, changesOnly_value (Store.value?_addRepeated _ r value) rfl rfl _⟩
  | flag f => exact ⟨f, h, changesOnly_value (Store.value?_setFlag _ f) rfl rfl _⟩
  | unknownOption name value =>
    refine ⟨.option name value, ?_, .inr ⟨rfl, fun part hpart => ?_⟩⟩
    · rw [h]
      exact List.append_assoc _ _ _
    · cases part with
      | unknownOptions => exact absurd (by simp) hpart
      | _ => rfl
  | unknownDirective name =>
    refine ⟨.directive name, h.symm, .inl ⟨rfl, fun part hpart => ?_⟩⟩
    cases part with
    | unknownDirectives => exact absurd (by simp) hpart
    | _ => rfl
  | grouping g =>
    obtain ⟨body, htext, hmatch⟩ := h
    refine ⟨body, g, htext, hmatch, rfl, fun part hpart => ?_⟩
    cases part with
    | grouping => exact absurd (by simp) hpart
    | _ => rfl
  | newSet title =>
    refine ⟨title, _, h, Dataset.setTitles_beginSet _ _,
      Dataset.bucket_takeIn d.dataset (.newSet title) _, ?_, changesOnly_newSet d title⟩
    rw [Dataset.added]
    split <;> simp
  | mode m =>
    refine ⟨m, _, h, rfl, Dataset.bucket_takeIn d.dataset (.mode m) .multi, ?_,
      changesOnly_mode d m⟩
    rw [Dataset.added]
    split <;> simp
  | row r =>
    rw [h]
    exact ⟨Dataset.bucket_push_self _ _ _, changesOnly_row d _⟩

theorem lineCount_feed (d : Description) (line : Text) :
    (d.feed line).lineCount = d.lineCount + 1 := by
  rw [feed]
  cases Line.read line <;> rfl

end Description

/-- **The effect of a line.**  A line is counted and has the one effect that its kind announces.
The kind depends on the line without the blanks around it and on nothing else, and it is the one of
data exactly when there is something on the line that starts neither a comment nor a directive and
does not have the form of an option.  Two descriptions of as many lines that agree in every part are
equal, so an effect that changes no other part changes nothing else. -/
theorem feed_effect :
    (∀ (d : Description) (line : Text), (d.feed line).lineCount = d.lineCount + 1 ∧
      (Line.read line).kind.Effect line.strip d (d.feed line)) ∧
    (∀ line other : Text, line.strip = other.strip →
      (Line.read line).kind = (Line.read other).kind) ∧
    (∀ line : Text, (Line.read line).kind = .data ↔
      line.strip ≠ [] ∧ line.strip.head? ≠ some (CodePoint.char '#') ∧
        line.strip.head? ≠ some (CodePoint.char '=') ∧ ¬Line.IsOptionText line.strip) ∧
    ∀ a b : Description, (∀ part : Part, part.Same a b) → b.lineCount = a.lineCount → b = a := by
  refine ⟨fun d line => ⟨d.lineCount_feed line, ?_⟩, fun line other h => ?_,
    Line.kind_read_eq_data_iff, fun a b => Description.eq_of_same⟩
  · exact Description.effect_add (Line.writtenAs_read line) d
  · rw [Line.read, Line.read, h]

end ChartScript
