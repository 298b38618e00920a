import ChartScript.Proofs.LineEffects
import ChartScript.Proofs.Verdict
import Mathlib.Data.List.Nodup

/-!
# What a run of calls leaves in a store

A store is filled by calls that name options: a flag is given, a value is given, a directive that
does not exist is recorded.  The names are texts, so a call may give a value to a flag, use a
setting as a flag, or name no option at all.  This file says what any number of calls, in any order,
leave in a store that was empty.

Names are the first problem.  The store finds an option by trying names in a fixed order, and a name
must stand for the one option that has it, whatever the order.  `Key.ofName?_eq_some_iff` says so,
from the fact that no two options have the same name; after it, names are compared and never
searched for.

`Store.Takes` lists what a call can do, by the kind of option that its name stands for, and
`takes_step` says that this is all.  Each part of a store then needs one lemma about `Takes` and one
induction over the calls.  A new kind of call would add a constructor and a case to each, and
nothing to the inductions.

A `Store` keeps flags, settings and repeated options apart, so that a value of the wrong shape
cannot be built.  This is a strength of the definition, and makes the statement that shapes are kept
say less than it should: it would hold of any code.  `Dictionary` is a store without shapes, one
value of any shape under every name, in which adding to a repeated option *fails* when something
else is there.  `run?_eq` says that it takes every run of calls and gives back what the store does.
So shapes are kept because the calls respect them and not because the type does.
-/

set_option autoImplicit false

namespace ChartScript

/-! ## Names of options -/

theorem Text.ofString_injective : Function.Injective Text.ofString :=
  Function.LeftInverse.injective toString_ofString

/-- Where no two items have the same name, what is found by a name is the item that has it. -/
theorem find?_name_eq_some_iff {α : Type} {name : α → String} {items : List α}
    (hnodup : (items.map name).Nodup) {text : Text} {a : α} (ha : a ∈ items) :
    items.find? (fun item => Text.ofString (name item) == text) = some a ↔
      Text.ofString (name a) = text := by
  constructor
  · exact Line.name_of_find?
  · rintro rfl
    obtain ⟨b, hb⟩ : ∃ b, items.find? (fun item => Text.ofString (name item) ==
        Text.ofString (name a)) = some b :=
      Option.isSome_iff_exists.mp (List.find?_isSome.mpr ⟨a, ha, beq_self_eq_true _⟩)
    have hname : name b = name a := Text.ofString_injective (Line.name_of_find? hb)
    rw [hb, List.inj_on_of_nodup_map hnodup (List.mem_of_find?_eq_some hb) ha hname]

theorem Flag.ofName?_eq_some_iff {name : Text} {f : Flag} :
    Flag.ofName? name = some f ↔ Text.ofString f.name = name :=
  find?_name_eq_some_iff (by decide) (mem_all f)

namespace Key

theorem mem_all (key : Key) : key ∈ all := by
  rw [all, List.mem_flatMap]
  cases key with
  | flag f => exact ⟨.flag, by decide, List.mem_map_of_mem (Flag.mem_all f)⟩
  | setting s => exact ⟨.setting, by decide, List.mem_map_of_mem (Setting.mem_all s)⟩
  | repeated r => exact ⟨.repeated, by decide, List.mem_map_of_mem (Repeated.mem_all r)⟩

/-- A name stands for the one option that has it. -/
theorem ofName?_eq_some_iff {name : Text} {key : Key} :
    ofName? name = some key ↔ Text.ofString key.name = name :=
  find?_name_eq_some_iff nodup_names (mem_all key)

theorem name_eq_iff {a b : Key} : Text.ofString a.name = Text.ofString b.name ↔ a = b := by
  constructor
  · intro h
    exact Option.some.inj ((ofName?_eq_some_iff.mpr h).symm.trans (ofName?_eq_some_iff.mpr rfl))
  · rintro rfl
    rfl

end Key

/-- Whether there is an option of a name that takes values. -/
def TakesValues (name : Text) : Prop :=
  ∃ key : Key, key.kind ≠ .flag ∧ Text.ofString key.name = name

instance (name : Text) : Decidable (TakesValues name) :=
  decidable_of_iff (∃ key ∈ Key.all, key.kind ≠ .flag ∧ Text.ofString key.name = name)
    ⟨fun ⟨key, _, h⟩ => ⟨key, h⟩, fun ⟨key, h⟩ => ⟨key, key.mem_all, h⟩⟩

theorem takesValues_setting (s : Setting) : TakesValues (Text.ofString s.name) :=
  ⟨.setting s, by simp [Key.kind], rfl⟩

theorem takesValues_repeated (r : Repeated) : TakesValues (Text.ofString r.name) :=
  ⟨.repeated r, by simp [Key.kind], rfl⟩

/-! ## Calls -/

namespace Store

/-- A call on a store, which names an option by a text. -/
inductive Call where
  /-- The flag of a name is given. -/
  | giveFlag (name : Text)
  /-- A value is given to the option of a name. -/
  | giveValue (name value : Text)
  /-- A directive that does not exist is recorded. -/
  | ignore (name : Text)
  deriving DecidableEq, Repr

namespace Call

/-- The value that a call gives under a name. -/
def valueFor? (name : Text) : Call → Option Text
  | .giveValue other value => if other = name then some value else none
  | _ => none

/-- What a call adds to the options that do not exist. -/
def refused? : Call → Option Ignored
  | .giveValue name value => if TakesValues name then none else some (.option name value)
  | _ => none

/-- What a call adds to the directives that do not exist. -/
def recorded? : Call → Option Ignored
  | .ignore name => some (.directive name)
  | _ => none

end Call

/-- The values that calls give under a name, in order. -/
def valuesFor (name : Text) (calls : List Call) : List Text := calls.filterMap (Call.valueFor? name)

/-- The store after a call. -/
def step (store : Store) : Call → Store
  | .giveFlag name => (store.giveFlag name).1
  | .giveValue name value => (store.setValue name value).1
  | .ignore name => store.ignoreDirective name

/-- The store after calls on an empty one. -/
def run (calls : List Call) : Store := calls.foldl step {}

theorem run_append_singleton (calls : List Call) (call : Call) :
    run (calls ++ [call]) = (run calls).step call := by
  rw [run, List.foldl_append]
  rfl

theorem filterMap_append_singleton {β : Type} (f : Call → Option β) (calls : List Call)
    (call : Call) : (calls ++ [call]).filterMap f = calls.filterMap f ++ (f call).toList := by
  rw [List.filterMap_append]
  cases h : f call <;> simp [h]

theorem valuesFor_append_singleton (name : Text) (calls : List Call) (call : Call) :
    valuesFor name (calls ++ [call]) = valuesFor name calls ++ (call.valueFor? name).toList :=
  filterMap_append_singleton _ calls call

/-! ## One call -/

/-- What a call does to a store, by the kind of option that its name stands for. -/
inductive Takes (store : Store) : Call → Store → Prop where
  | flag (f : Flag) : Takes store (.giveFlag (Text.ofString f.name)) (store.setFlag f)
  | noFlag {name : Text} (h : ∀ f : Flag, Text.ofString f.name ≠ name) :
    Takes store (.giveFlag name) store
  | setting (s : Setting) (value : Text) :
    Takes store (.giveValue (Text.ofString s.name) value) (store.setSetting s value)
  | repeated (r : Repeated) (value : Text) :
    Takes store (.giveValue (Text.ofString r.name) value) (store.addRepeated r value)
  | refused {name : Text} (h : ¬TakesValues name) (value : Text) :
    Takes store (.giveValue name value) (store.ignoreOption name value)
  | ignored (name : Text) : Takes store (.ignore name) (store.ignoreDirective name)

theorem takes_step (store : Store) (call : Call) : store.Takes call (store.step call) := by
  cases call with
  | giveFlag name =>
    rw [step, giveFlag]
    cases hfind : Flag.ofName? name with
    | some f =>
      obtain rfl := Flag.ofName?_eq_some_iff.mp hfind
      exact .flag f
    | none =>
      refine .noFlag fun f hf => ?_
      exact absurd (hfind.symm.trans (Flag.ofName?_eq_some_iff.mpr hf)) (by simp)
  | giveValue name value =>
    rw [step, setValue]
    cases hfind : Key.ofName? name with
    | none =>
      refine .refused ?_ value
      rintro ⟨key, -, hkey⟩
      exact absurd (hfind.symm.trans (Key.ofName?_eq_some_iff.mpr hkey)) (by simp)
    | some key =>
      obtain rfl := Key.ofName?_eq_some_iff.mp hfind
      cases key with
      | flag f =>
        refine .refused ?_ value
        rintro ⟨key, hkind, hkey⟩
        obtain rfl := Key.name_eq_iff.mp hkey
        exact hkind rfl
      | setting s => exact .setting s value
      | repeated r => exact .repeated r value
  | ignore name => exact .ignored name

/-- A value given under the name of an option is a value for that option and for no other. -/
theorem valueFor?_giveValue (key other : Key) (value : Text) :
    (Call.giveValue (Text.ofString other.name) value).valueFor? (Text.ofString key.name) =
      if key = other then some value else none := by
  rw [Call.valueFor?]
  exact if_congr (Key.name_eq_iff.trans eq_comm) rfl rfl

theorem valueFor?_of_not_takesValues {name : Text} (h : ¬TakesValues name) (key : Key)
    (hkind : key.kind ≠ .flag) (value : Text) :
    (Call.giveValue name value).valueFor? (Text.ofString key.name) = none :=
  if_neg fun heq => h ⟨key, hkind, heq.symm⟩

section OneCall

variable {store after : Store} {call : Call} (h : store.Takes call after)

include h

theorem Takes.flags (f : Flag) :
    after.flags f = true ↔ store.flags f = true ∨ call = .giveFlag (Text.ofString f.name) := by
  cases h with
  | flag g =>
    have hname : Text.ofString g.name = Text.ofString f.name ↔ f = g :=
      (Key.name_eq_iff (a := .flag g) (b := .flag f)).trans (by simp [eq_comm])
    by_cases hf : f = g <;> simp [setFlag, hname, hf]
  | noFlag hnone => simp [Ne.symm (hnone f)]
  | _ => simp [setSetting, addRepeated, ignoreOption, ignoreDirective]

theorem Takes.settings (s : Setting) :
    after.settings s = (call.valueFor? (Text.ofString s.name)).or (store.settings s) := by
  cases h with
  | setting t value =>
    refine .trans ?_ (congrArg (·.or (store.settings s))
      (valueFor?_giveValue (.setting s) (.setting t) value)).symm
    by_cases hs : s = t <;> simp [setSetting, hs]
  | repeated r value =>
    exact congrArg (·.or (store.settings s))
      (valueFor?_giveValue (.setting s) (.repeated r) value).symm
  | refused hnone value =>
    exact congrArg (·.or (store.settings s))
      (valueFor?_of_not_takesValues hnone (.setting s) (by simp [Key.kind]) value).symm
  | _ => rfl

theorem Takes.repeated_eq (r : Repeated) :
    after.repeated r = store.repeated r ++ (call.valueFor? (Text.ofString r.name)).toList := by
  have hnone : call.valueFor? (Text.ofString r.name) = none → store.repeated r =
      store.repeated r ++ (call.valueFor? (Text.ofString r.name)).toList := by
    intro heq
    rw [heq, Option.toList_none, List.append_nil]
  cases h with
  | setting s value => exact hnone (valueFor?_giveValue (.repeated r) (.setting s) value)
  | repeated q value =>
    refine .trans ?_ (congrArg (store.repeated r ++ Option.toList ·)
      (valueFor?_giveValue (.repeated r) (.repeated q) value)).symm
    by_cases hr : r = q <;> simp [addRepeated, hr]
  | refused htakes value =>
    exact hnone (valueFor?_of_not_takesValues htakes (.repeated r) (by simp [Key.kind]) value)
  | _ => exact hnone rfl

theorem Takes.unknownOptions :
    after.unknownOptions = store.unknownOptions ++ call.refused?.toList := by
  cases h with
  | setting s value =>
    simp [Call.refused?, takesValues_setting s, setSetting]
  | repeated r value =>
    simp [Call.refused?, takesValues_repeated r, addRepeated]
  | refused hnone value => simp [Call.refused?, hnone, ignoreOption]
  | _ => simp [Call.refused?, setFlag, ignoreDirective]

theorem Takes.unknownDirectives :
    after.unknownDirectives = store.unknownDirectives ++ call.recorded?.toList := by
  cases h with
  | ignored name => rfl
  | _ => simp [Call.recorded?, setFlag, setSetting, addRepeated, ignoreOption]

end OneCall

/-! ## All calls -/

/-- A flag is given when a call names it. -/
theorem flags_run (calls : List Call) (f : Flag) :
    (run calls).flags f = true ↔ .giveFlag (Text.ofString f.name) ∈ calls := by
  induction calls using List.reverseRecOn with
  | nil => simp [run]
  | append_singleton calls call ih =>
    rw [run_append_singleton, (takes_step _ call).flags, ih, List.mem_append, List.mem_singleton,
      eq_comm (a := call)]

/-- A setting has the last value that a call gives under its name. -/
theorem settings_run (calls : List Call) (s : Setting) :
    (run calls).settings s = (valuesFor (Text.ofString s.name) calls).getLast? := by
  induction calls using List.reverseRecOn with
  | nil => rfl
  | append_singleton calls call ih =>
    rw [run_append_singleton, (takes_step _ call).settings, ih, valuesFor_append_singleton,
      List.getLast?_append]
    cases call.valueFor? (Text.ofString s.name) <;> rfl

/-- A repeated option has the values that calls give under its name, in order. -/
theorem repeated_run (calls : List Call) (r : Repeated) :
    (run calls).repeated r = valuesFor (Text.ofString r.name) calls := by
  induction calls using List.reverseRecOn with
  | nil => rfl
  | append_singleton calls call ih =>
    rw [run_append_singleton, (takes_step _ call).repeated_eq, ih, valuesFor_append_singleton]

theorem unknownOptions_run (calls : List Call) :
    (run calls).unknownOptions = calls.filterMap Call.refused? := by
  induction calls using List.reverseRecOn with
  | nil => rfl
  | append_singleton calls call ih =>
    rw [run_append_singleton, (takes_step _ call).unknownOptions, ih, filterMap_append_singleton]

theorem unknownDirectives_run (calls : List Call) :
    (run calls).unknownDirectives = calls.filterMap Call.recorded? := by
  induction calls using List.reverseRecOn with
  | nil => rfl
  | append_singleton calls call ih =>
    rw [run_append_singleton, (takes_step _ call).unknownDirectives, ih, filterMap_append_singleton]

/-! ## Values by name -/

theorem find?_name (store : Store) (key : Key) :
    store.find? (Text.ofString key.name) = store.value? key := by
  rw [find?, Key.ofName?_eq_some_iff.mpr rfl, Option.bind_some]

theorem find?_flag (store : Store) (f : Flag) :
    store.find? (Text.ofString f.name) = if store.flags f then some .given else none :=
  store.find?_name (.flag f)

theorem find?_setting (store : Store) (s : Setting) :
    store.find? (Text.ofString s.name) = (store.settings s).map .one :=
  store.find?_name (.setting s)

theorem find?_repeated (store : Store) (r : Repeated) :
    store.find? (Text.ofString r.name) =
      if (store.repeated r).isEmpty then none else some (.many (store.repeated r)) :=
  store.find?_name (.repeated r)

end Store

/-- The shape of the values of a kind: a flag is only given, a setting has one value and a repeated
option has values, at least one. -/
def StoredValue.HasShape : OptionKind → StoredValue → Prop
  | .flag, .given => True
  | .setting, .one _ => True
  | .repeated, .many values => values ≠ []
  | _, _ => False

/-- The value that an option takes effect with, as a store would give it back. -/
def Assignment.stored : Assignment → StoredValue
  | .flag _ => .given
  | .setting _ value => .one value
  | .repeated _ values => .many values

namespace Store

theorem hasShape_of_value? {store : Store} {key : Key} {stored : StoredValue}
    (h : store.value? key = some stored) : stored.HasShape key.kind := by
  cases key with
  | flag f =>
    obtain ⟨-, hstored⟩ := Option.ite_none_right_eq_some.mp h
    rw [← Option.some.inj hstored]
    trivial
  | setting s =>
    obtain ⟨value, -, rfl⟩ := Option.map_eq_some_iff.mp h
    trivial
  | repeated r =>
    obtain ⟨hne, hstored⟩ := Option.ite_none_left_eq_some.mp h
    rw [← Option.some.inj hstored]
    exact fun hnil => hne (by simp [hnil])

/-- What a store gives back under a name is there for the option of that name, in its shape. -/
theorem hasShape_of_find? {store : Store} {name : Text} {stored : StoredValue}
    (h : store.find? name = some stored) :
    ∃ key : Key, Text.ofString key.name = name ∧ stored.HasShape key.kind := by
  obtain ⟨key, hkey, hvalue⟩ := Option.bind_eq_some_iff.mp h
  exact ⟨key, Key.ofName?_eq_some_iff.mp hkey, hasShape_of_value? hvalue⟩

/-- An option takes effect in its phase, with what the store gives back under its name. -/
theorem mem_assignments_iff {store : Store} {phase : Phase} {a : Assignment} :
    a ∈ store.assignments phase ↔
      a.phase = phase ∧ store.find? (Text.ofString a.key.name) = some a.stored := by
  rw [find?_name, and_comm]
  cases a with
  | flag f =>
    have hf : f ∈ Flag.inNameOrder := by cases f <;> decide
    simp [assignments, value?, Assignment.key, Assignment.stored, hf]
  | setting s value =>
    refine setting_mem_assignments_iff.trans (and_congr_left fun _ => ?_)
    simp [value?, Assignment.key, Assignment.stored]
  | repeated r values =>
    have hr : r ∈ Repeated.all := Repeated.mem_all r
    simp [assignments, value?, Assignment.key, Assignment.stored, hr]

end Store

/-! ## One dictionary for all kinds -/

/-- Values of options by name.  Nothing keeps the kinds of options apart. -/
abbrev Dictionary := Text → Option StoredValue

namespace Dictionary

/-- Puts a value in the place of what is there. -/
def put (d : Dictionary) (name : Text) (stored : StoredValue) : Dictionary :=
  fun other => if other = name then some stored else d other

/-- Adds a value to the values that are there, and fails where something else is there. -/
def append? (d : Dictionary) (name value : Text) : Option Dictionary :=
  match d name with
  | none => some (d.put name (.many [value]))
  | some (.many values) => some (d.put name (.many (values ++ [value])))
  | some _ => none

/-- The dictionary after a call. -/
def step? (d : Dictionary) : Store.Call → Option Dictionary
  | .giveFlag name =>
    match (Key.ofName? name).map Key.kind with
    | some .flag => some (d.put name .given)
    | _ => some d
  | .giveValue name value =>
    match (Key.ofName? name).map Key.kind with
    | some .setting => some (d.put name (.one value))
    | some .repeated => d.append? name value
    | _ => some d
  | .ignore _ => some d

/-- The dictionary after calls on an empty one. -/
def run? (calls : List Store.Call) : Option Dictionary := calls.foldlM step? fun _ => none

end Dictionary

namespace Store

/-- A store in which one option has a new value gives back that value under its name. -/
theorem find?_eq_put {store after : Store} {key : Key} {stored : StoredValue}
    (h : ∀ k, after.value? k = if k = key then some stored else store.value? k) :
    after.find? = Dictionary.put store.find? (Text.ofString key.name) stored := by
  funext name
  rw [Dictionary.put, find?, find?]
  cases hname : Key.ofName? name with
  | none =>
    have hne : ¬name = Text.ofString key.name := by
      rintro rfl
      exact absurd hname (by simp [Key.ofName?_eq_some_iff.mpr rfl])
    rw [if_neg hne]
    rfl
  | some k =>
    obtain rfl := Key.ofName?_eq_some_iff.mp hname
    exact (h k).trans (if_congr Key.name_eq_iff.symm rfl rfl)

/-- A call does to the dictionary of a store what it does to the store.  In particular a value is
only ever added to values. -/
theorem step?_find? (store : Store) (call : Call) :
    Dictionary.step? store.find? call = some (store.step call).find? := by
  have htakes := store.takes_step call
  generalize store.step call = after at htakes ⊢
  cases htakes with
  | flag f =>
    have hname : Key.ofName? (Text.ofString f.name) = some (.flag f) :=
      Key.ofName?_eq_some_iff.mpr rfl
    rw [Dictionary.step?, hname, find?_eq_put (value?_setFlag store f)]
    rfl
  | noFlag hnone =>
    rw [Dictionary.step?]
    split
    · next hkind =>
      obtain ⟨key, hkey, hflag⟩ := Option.map_eq_some_iff.mp hkind
      cases key with
      | flag f => exact absurd (Key.ofName?_eq_some_iff.mp hkey) (hnone f)
      | _ => exact absurd hflag (by simp [Key.kind])
    · rfl
  | setting s value =>
    have hname : Key.ofName? (Text.ofString s.name) = some (.setting s) :=
      Key.ofName?_eq_some_iff.mpr rfl
    rw [Dictionary.step?, hname, find?_eq_put (value?_setSetting store s value)]
    rfl
  | repeated r value =>
    have hname : Key.ofName? (Text.ofString r.name) = some (.repeated r) :=
      Key.ofName?_eq_some_iff.mpr rfl
    rw [Dictionary.step?, hname, find?_eq_put (value?_addRepeated store r value)]
    show Dictionary.append? _ _ _ = _
    rw [Dictionary.append?, find?_repeated]
    cases hvalues : store.repeated r with
    | nil => rfl
    | cons first values => rfl
  | refused hnone value =>
    rw [Dictionary.step?]
    split
    · next hkind =>
      obtain ⟨key, hkey, hsetting⟩ := Option.map_eq_some_iff.mp hkind
      exact absurd ⟨key, by simp [hsetting], Key.ofName?_eq_some_iff.mp hkey⟩ hnone
    · next hkind =>
      obtain ⟨key, hkey, hrepeated⟩ := Option.map_eq_some_iff.mp hkind
      exact absurd ⟨key, by simp [hrepeated], Key.ofName?_eq_some_iff.mp hkey⟩ hnone
    · rfl
  | ignored name => rfl

/-- So calls on one dictionary for all kinds never fail, and leave what the store gives back. -/
theorem run?_eq (calls : List Call) : Dictionary.run? calls = some (run calls).find? := by
  induction calls using List.reverseRecOn with
  | nil =>
    have hempty : ({} : Store).find? = fun _ => none := by
      funext name
      rw [find?]
      cases Key.ofName? name with
      | none => rfl
      | some key => cases key <;> rfl
    exact congrArg some hempty.symm
  | append_singleton calls call ih =>
    rw [Dictionary.run?] at ih
    rw [Dictionary.run?, List.foldlM_append, ih, run_append_singleton, ← step?_find?]
    simp

/-- A refused value is recorded, and the store gives back what it gave back before. -/
theorem step_of_not_takesValues {name : Text} (h : ¬TakesValues name) (store : Store)
    (value : Text) : store.step (.giveValue name value) = store.ignoreOption name value := by
  have htakes := store.takes_step (.giveValue name value)
  generalize store.step (.giveValue name value) = after at htakes ⊢
  cases htakes with
  | setting s => exact absurd (takesValues_setting s) h
  | repeated r => exact absurd (takesValues_repeated r) h
  | refused => rfl

/-- **What a store holds after any run of calls.**  Under a name there is a value only if an option
has the name, and then in the shape of its kind.  A flag is there when a call gave it, a setting has
the last value given under its name and a repeated option all of them, in order.  A value for a flag
or for no option is recorded once, as are the directives that do not exist, and it changes nothing
else.  So in either phase the options that take effect are those that the store gives back a value
for, each with that value, and it has the shape of the option's kind. -/
theorem run_keeps_shapes (calls : List Call) :
    let store := run calls
    Dictionary.run? calls = some store.find? ∧
    (∀ name stored, store.find? name = some stored →
      ∃ key : Key, Text.ofString key.name = name ∧ stored.HasShape key.kind) ∧
    (∀ f : Flag, store.find? (Text.ofString f.name) = some .given ↔
      .giveFlag (Text.ofString f.name) ∈ calls) ∧
    (∀ s : Setting, store.find? (Text.ofString s.name) =
      (valuesFor (Text.ofString s.name) calls).getLast?.map .one) ∧
    (∀ r : Repeated, store.find? (Text.ofString r.name) =
      let values := valuesFor (Text.ofString r.name) calls
      if values = [] then none else some (.many values)) ∧
    store.unknownOptions = calls.filterMap Call.refused? ∧
    store.unknownDirectives = calls.filterMap Call.recorded? ∧
    (∀ (before : Store) (name value : Text), ¬TakesValues name →
      let after := before.step (.giveValue name value)
      after.unknownOptions = before.unknownOptions ++ [.option name value] ∧
        after.unknownDirectives = before.unknownDirectives ∧
        ∀ other, after.find? other = before.find? other) ∧
    ∀ (phase : Phase) (a : Assignment),
      (a ∈ store.assignments phase ↔
        a.phase = phase ∧ store.find? (Text.ofString a.key.name) = some a.stored) ∧
      (a ∈ store.assignments phase → a.stored.HasShape a.key.kind) := by
  intro store
  refine ⟨run?_eq calls, fun _ _ => hasShape_of_find?, fun f => ?_, fun s => ?_, fun r => ?_,
    unknownOptions_run calls, unknownDirectives_run calls, fun before name value h => ?_,
    fun phase a => ⟨mem_assignments_iff, fun ha => ?_⟩⟩
  · rw [← flags_run, find?_flag]
    simp [store]
  · rw [← settings_run, find?_setting]
  · rw [← repeated_run, find?_repeated]
    simp [store]
  · rw [step_of_not_takesValues h]
    exact ⟨rfl, rfl, fun _ => rfl⟩
  · obtain ⟨-, hfind⟩ := mem_assignments_iff.mp ha
    rw [find?_name] at hfind
    exact hasShape_of_value? hfind

end Store
end ChartScript
