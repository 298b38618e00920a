import ChartScript.Proofs.JsonValues
import ChartScript.Settings

/-!
# Which documents give settings

A JSON file gives settings when its document is a table of which the parts that are used have the
right types.  The code looks them up one by one, with a default for each, and a value that counts as
nothing (null, zero, an empty text or list) is as good as an absent one; but a level of log records
is treated differently from the rest, and a list is taken whatever its items are.  Such rules are
best read as relations between a table and what it gives, and `Settings.GivesTexts`,
`Settings.HasDefaults` and `Settings.HasLevel` are those, with one constructor for each way in which
a value may be given.

The relations speak of entries and not of lookups.  In a table that was read no name occurs twice,
so that an entry with a name is *the* entry; for an arbitrary table it need not be, and the proofs
take this from `Json.Holds`.  So does the fact that values can be written as texts: items of a list
that are no texts are, and it could fail for a value that is nested too deeply, but a value in a
document that was read has at least one level to spare.  The bound on levels is that of the
platform, so both facts are relative to it.

`Workspace.settings_of_json_file` sorts the outcomes for every file into three kinds, each by an
equivalence.  There are settings; there is a report that names the file; or there is a fault that is
not reported.  The last is the one worth knowing about: a document that is no table, or that is
nested too deeply, fails without a report, and nothing else does.
-/

set_option autoImplicit false

namespace ChartScript

/-! ## Values that count as nothing -/

/-- `v.IsFalsy` says that `v` counts as nothing: it is null, false, zero or empty. -/
inductive Value.IsFalsy : Value → Prop
  | null : IsFalsy .null
  | bool : IsFalsy (.bool false)
  | integer : IsFalsy (.integer 0)
  | number {negative : Bool} {m : Magnitude} (hm : m.units = 0) :
      IsFalsy (.number (.finite negative m))
  | string : IsFalsy (.string [])
  | list : IsFalsy (.list [])
  | table : IsFalsy (.table [])

theorem Value.isGiven_eq_false_iff {v : Value} : v.isGiven = false ↔ v.IsFalsy := by
  constructor
  · intro h
    cases v with
    | null => exact .null
    | bool b =>
      obtain rfl : b = false := h
      exact .bool
    | integer n =>
      obtain rfl : n = 0 := by simpa [isGiven] using h
      exact .integer
    | number x =>
      cases x with
      | finite negative m => exact .number (by simpa [isGiven, Binary64.isZero] using h)
      | infinite => cases h
      | undefined => cases h
    | string s =>
      obtain rfl : s = [] := by simpa [isGiven] using h
      exact .string
    | moment => cases h
    | list items =>
      obtain rfl : items = [] := by simpa [isGiven] using h
      exact .list
    | table entries =>
      obtain rfl : entries = [] := by simpa [isGiven] using h
      exact .table
  · intro h
    cases h with
    | number hm => simp [isGiven, Binary64.isZero, hm]
    | _ => rfl

namespace Settings

/-! ## What tables give -/

/-- `Binds entries name v` says that `v` is a value of a name in a table. -/
def Binds (entries : List (Text × Value)) (name : Text) (v : Value) : Prop := (name, v) ∈ entries

/-- A name is unset when it is absent or its value counts as nothing. -/
def IsUnset (entries : List (Text × Value)) (name : Text) : Prop :=
  ∀ v, Binds entries name v → v.IsFalsy

/-- `GivesTexts entries name texts` says that `texts` are those of a name: none if it is unset, its
text, or the texts of its items. -/
inductive GivesTexts (entries : List (Text × Value)) (name : Text) : List Text → Prop
  | unset (h : IsUnset entries name) : GivesTexts entries name []
  | string {s : Text} (h : Binds entries name (.string s)) (hs : s ≠ []) :
      GivesTexts entries name [s]
  | list {items : List Value} (h : Binds entries name (.list items)) :
      GivesTexts entries name (items.map Value.text)

/-- `HasDefaults entries defaults` says that `defaults` are the defaults in a table: none if they
are unset, or the entries of a table. -/
inductive HasDefaults (entries : List (Text × Value)) : List (Text × Value) → Prop
  | unset (h : IsUnset entries "defaults") : HasDefaults entries []
  | table {defaults : List (Text × Value)} (h : Binds entries "defaults" (.table defaults)) :
      HasDefaults entries defaults

/-- `HasLevel entries level` says that `level` is the level of detail in a table.  Null is the same
as no level, but any other value has a text. -/
inductive HasLevel (entries : List (Text × Value)) : Option Text → Prop
  | absent (h : ∀ v, ¬Binds entries "log_level" v) : HasLevel entries none
  | null (h : Binds entries "log_level" .null) : HasLevel entries none
  | value {v : Value} (h : Binds entries "log_level" v) (hv : v ≠ .null) :
      HasLevel entries (some v.text)

/-! ## Reading the parts of a table -/

section Parts

variable {entries : List (Text × Value)}

section Names

variable (hnames : (entries.map Prod.fst).Nodup)
include hnames

theorem given?_eq_some_iff {name : String} {v : Value} :
    given? name entries = some v ↔ Binds entries name v ∧ ¬v.IsFalsy := by
  rw [given?, Option.filter_eq_some_iff, Value.lookup_eq_some_iff hnames,
    ← Value.isGiven_eq_false_iff, Bool.not_eq_false, Binds]

theorem given?_eq_none_iff {name : String} :
    given? name entries = none ↔ IsUnset entries name := by
  rw [Option.eq_none_iff_forall_not_mem]
  simp only [Option.mem_def, given?_eq_some_iff hnames, not_and, not_not, IsUnset]

/-- A name has one value. -/
theorem Binds.unique {name : Text} {v v' : Value} (h : Binds entries name v)
    (h' : Binds entries name v') : v = v' := by
  rw [Binds, ← Value.lookup_eq_some_iff hnames] at h h'
  exact Option.some.inj (h.symm.trans h')

theorem defaultsOf_eq_ok_iff {defaults : List (Text × Value)} :
    defaultsOf entries = .ok defaults ↔ HasDefaults entries defaults := by
  rw [defaultsOf]
  constructor
  · intro h
    split at h
    · next hnone =>
      obtain rfl := Except.ok.inj h
      exact .unset ((given?_eq_none_iff hnames).mp hnone)
    · next hsome =>
      obtain rfl := Except.ok.inj h
      exact .table ((given?_eq_some_iff hnames).mp hsome).1
    · cases h
  · intro h
    cases h with
    | unset h => rw [(given?_eq_none_iff hnames).mpr h]
    | table h =>
      by_cases hempty : defaults = []
      · subst hempty
        rw [(given?_eq_none_iff hnames).mpr fun v hv => Binds.unique hnames h hv ▸ .table]
      · have hgiven : ¬(Value.table defaults).IsFalsy := by
          rintro ⟨⟩
          exact hempty rfl
        rw [(given?_eq_some_iff hnames).mpr ⟨h, hgiven⟩]

end Names

theorem isReported_of_defaultsOf {fault : SettingsFault} (h : defaultsOf entries = .error fault) :
    fault.isReported = true := by
  rw [defaultsOf] at h
  split at h
  · cases h
  · cases h
  · cases h
    rfl

variable {p : Platform}

theorem textOf_eq {room : Nat} {v : Value} (h : Json.Holds room v) (hroom : room < p.maxNesting) :
    textOf p v = .ok v.text := by
  rw [textOf, h.write_eq hroom, Except.mapError]

theorem mapM_textOf_eq {room : Nat} {items : List Value}
    (h : ∀ item ∈ items, Json.Holds room item) (hroom : room < p.maxNesting) :
    items.mapM (textOf p) = .ok (items.map Value.text) := by
  induction items with
  | nil => rfl
  | cons item items ih =>
    rw [List.forall_mem_cons] at h
    rw [List.mapM_cons, textOf_eq h.1 hroom, ih h.2]
    rfl

section Document

variable (hentries : Json.Holds p.maxNesting (.table entries))
include hentries

theorem HasDefaults.holds {defaults : List (Text × Value)} (h : HasDefaults entries defaults) :
    Json.Holds p.maxNesting (.table defaults) := by
  cases h with
  | unset =>
    generalize p.maxNesting = limit at hentries
    cases hentries with
    | table => exact .table (by simp) (by simp)
  | table h =>
    obtain ⟨room, hroom, hheld⟩ := hentries.of_mem_entries h
    exact hheld.mono (Nat.le_of_lt hroom)

/-- A list that a name stands for has a text for every item. -/
theorem mapM_textOf_of_binds {name : Text} {items : List Value}
    (h : Binds entries name (.list items)) :
    items.mapM (textOf p) = .ok (items.map Value.text) := by
  obtain ⟨room, hroom, hheld⟩ := hentries.of_mem_entries h
  cases hheld with
  | list hitems => exact mapM_textOf_eq hitems (Nat.lt_of_succ_lt hroom)

theorem texts_eq_ok_iff {name : String} {texts : List Text} :
    Settings.texts p name entries = .ok texts ↔ GivesTexts entries name texts := by
  have hnames := hentries.nodup_names
  rw [Settings.texts]
  constructor
  · intro h
    split at h
    · next hnone =>
      obtain rfl := Except.ok.inj h
      exact .unset ((given?_eq_none_iff hnames).mp hnone)
    · next hsome =>
      obtain rfl := Except.ok.inj h
      obtain ⟨hbinds, hgiven⟩ := (given?_eq_some_iff hnames).mp hsome
      exact .string hbinds fun hs => hgiven (hs ▸ .string)
    · next hsome =>
      obtain ⟨hbinds, -⟩ := (given?_eq_some_iff hnames).mp hsome
      rw [mapM_textOf_of_binds hentries hbinds] at h
      obtain rfl := Except.ok.inj h
      exact .list hbinds
    · cases h
  · intro h
    cases h with
    | unset h => rw [(given?_eq_none_iff hnames).mpr h]
    | @string s h hs =>
      have hgiven : ¬(Value.string s).IsFalsy := by
        rintro ⟨⟩
        exact hs rfl
      rw [(given?_eq_some_iff hnames).mpr ⟨h, hgiven⟩]
    | @list items h =>
      by_cases hempty : items = []
      · subst hempty
        rw [(given?_eq_none_iff hnames).mpr fun v hv => Binds.unique hnames h hv ▸ .list]
        rfl
      · have hgiven : ¬(Value.list items).IsFalsy := by
          rintro ⟨⟩
          exact hempty rfl
        rw [(given?_eq_some_iff hnames).mpr ⟨h, hgiven⟩]
        exact mapM_textOf_of_binds hentries h

theorem isReported_of_texts {name : String} {fault : SettingsFault}
    (h : Settings.texts p name entries = .error fault) : fault.isReported = true := by
  rw [Settings.texts] at h
  split at h
  · cases h
  · cases h
  · next hsome =>
    have hbinds := ((given?_eq_some_iff hentries.nodup_names).mp hsome).1
    rw [mapM_textOf_of_binds hentries hbinds] at h
    cases h
  · cases h
    rfl

theorem textOf_of_lookup {name : Text} {v : Value} (h : Value.lookup name entries = some v) :
    textOf p v = .ok v.text := by
  obtain ⟨room, hroom, hheld⟩ :=
    hentries.of_mem_entries ((Value.lookup_eq_some_iff hentries.nodup_names).mp h)
  exact textOf_eq hheld hroom

theorem levelOf_eq_ok_iff {level : Option Text} :
    levelOf p entries = .ok level ↔ HasLevel entries level := by
  have hlookup := fun v => @Value.lookup_eq_some_iff entries hentries.nodup_names "log_level" v
  rw [levelOf]
  constructor
  · intro h
    split at h
    · next hnone =>
      obtain rfl := Except.ok.inj h
      exact .absent (Value.lookup_eq_none_iff.mp hnone)
    · next hnull =>
      obtain rfl := Except.ok.inj h
      exact .null ((hlookup _).mp hnull)
    · next v hne hsome =>
      rw [textOf_of_lookup hentries hsome] at h
      obtain rfl := Except.ok.inj h
      exact .value ((hlookup v).mp hsome) hne
  · intro h
    cases h with
    | absent h => rw [Value.lookup_eq_none_iff.mpr h]
    | null h => rw [(hlookup _).mpr h]
    | @value v h hv =>
      have hsome := (hlookup v).mpr h
      rw [hsome]
      split
      · next heq => cases heq
      · next heq => exact absurd (Option.some.inj heq) hv
      · next heq =>
        obtain rfl := Option.some.inj heq
        rw [textOf_of_lookup hentries hsome, Except.map]

theorem exists_levelOf_eq_ok : ∃ level, levelOf p entries = .ok level := by
  rw [levelOf]
  split
  · exact ⟨none, rfl⟩
  · exact ⟨none, rfl⟩
  · next v hne hsome =>
    rw [textOf_of_lookup hentries hsome]
    exact ⟨some v.text, rfl⟩

end Document

end Parts

/-! ## Settings of a table -/

/-- `GivesSettings path entries s` says that the table at the top of the file `path` gives the
settings `s`. -/
def GivesSettings (path : Path) (entries : List (Text × Value)) (s : Settings) : Prop :=
  ∃ defaults, HasDefaults entries defaults ∧ GivesTexts defaults "extra" s.extra ∧
    GivesTexts defaults "extra_gnuplot" s.backend ∧ HasLevel defaults s.logLevel ∧
    s.names = entries.map Prod.fst ∧ s.source = some path

/-- A table can be used when it has defaults, and they have lines of both kinds. -/
def IsUsable (entries : List (Text × Value)) : Prop :=
  ∃ defaults, HasDefaults entries defaults ∧ (∃ texts, GivesTexts defaults "extra" texts) ∧
    ∃ texts, GivesTexts defaults "extra_gnuplot" texts

/-- The settings that a document gives in the file `path`. -/
def ofDocumentAt (p : Platform) (path : Path) (document : Value) :
    Except SettingsFault Settings := do
  let settings ← ofDocument p document
  return { settings with source := some path }

/-- Only tables have settings. -/
theorem ofDocumentAt_of_not_table {p : Platform} {path : Path} {document : Value}
    (h : ∀ entries, document ≠ .table entries) :
    ofDocumentAt p path document = .error (.notTable document.typeName) := by
  cases document with
  | table entries => exact absurd rfl (h entries)
  | _ => rfl

section Table

variable {p : Platform} {path : Path} {entries : List (Text × Value)}
  (hentries : Json.Holds p.maxNesting (.table entries))
include hentries

theorem ofDocumentAt_table_eq_ok_iff {s : Settings} :
    ofDocumentAt p path (.table entries) = .ok s ↔ GivesSettings path entries s := by
  have hnames := hentries.nodup_names
  constructor
  · intro h
    obtain ⟨t, hdocument, ht⟩ := bind_eq_ok_iff.mp h
    obtain ⟨defaults, hdefaults, hrest⟩ := bind_eq_ok_iff.mp hdocument
    obtain ⟨extra, hextra, hrest⟩ := bind_eq_ok_iff.mp hrest
    obtain ⟨backend, hbackend, hrest⟩ := bind_eq_ok_iff.mp hrest
    obtain ⟨level, hlevel, hrest⟩ := bind_eq_ok_iff.mp hrest
    obtain rfl := Except.ok.inj hrest
    obtain rfl := Except.ok.inj ht
    have hhas := (defaultsOf_eq_ok_iff hnames).mp hdefaults
    have hheld := hhas.holds hentries
    exact ⟨defaults, hhas, (texts_eq_ok_iff hheld).mp hextra,
      (texts_eq_ok_iff hheld).mp hbackend, (levelOf_eq_ok_iff hheld).mp hlevel, rfl, rfl⟩
  · obtain ⟨extra, backend, level, source, names⟩ := s
    rintro ⟨defaults, hhas, hextra, hbackend, hlevel, rfl, rfl⟩
    have hheld := hhas.holds hentries
    refine bind_eq_ok_iff.mpr ⟨_, bind_eq_ok_iff.mpr ⟨defaults,
      (defaultsOf_eq_ok_iff hnames).mpr hhas, bind_eq_ok_iff.mpr ⟨extra,
        (texts_eq_ok_iff hheld).mpr hextra, bind_eq_ok_iff.mpr ⟨backend,
          (texts_eq_ok_iff hheld).mpr hbackend, bind_eq_ok_iff.mpr ⟨level,
            (levelOf_eq_ok_iff hheld).mpr hlevel, rfl⟩⟩⟩⟩, rfl⟩

/-- A table that can be used gives settings, and no other does. -/
theorem exists_givesSettings_iff : (∃ s, GivesSettings path entries s) ↔ IsUsable entries := by
  constructor
  · rintro ⟨s, defaults, hhas, hextra, hbackend, -⟩
    exact ⟨defaults, hhas, ⟨s.extra, hextra⟩, ⟨s.backend, hbackend⟩⟩
  · rintro ⟨defaults, hhas, ⟨extra, hextra⟩, ⟨backend, hbackend⟩⟩
    have hheld := hhas.holds hentries
    obtain ⟨level, hlevel⟩ := exists_levelOf_eq_ok hheld
    exact ⟨{ extra, backend, logLevel := level, source := some path,
             names := entries.map Prod.fst },
      defaults, hhas, hextra, hbackend, (levelOf_eq_ok_iff hheld).mp hlevel, rfl, rfl⟩

theorem isReported_of_ofDocumentAt_table {fault : SettingsFault}
    (h : ofDocumentAt p path (.table entries) = .error fault) : fault.isReported = true := by
  rcases bind_eq_error_iff.mp h with h | ⟨s, -, h⟩
  · rcases bind_eq_error_iff.mp h with h | ⟨defaults, hdefaults, h⟩
    · exact isReported_of_defaultsOf h
    have hheld := ((defaultsOf_eq_ok_iff hentries.nodup_names).mp hdefaults).holds hentries
    rcases bind_eq_error_iff.mp h with h | ⟨extra, -, h⟩
    · exact isReported_of_texts hheld h
    rcases bind_eq_error_iff.mp h with h | ⟨backend, -, h⟩
    · exact isReported_of_texts hheld h
    rcases bind_eq_error_iff.mp h with h | ⟨level, -, h⟩
    · obtain ⟨level, hlevel⟩ := exists_levelOf_eq_ok hheld
      rw [hlevel] at h
      cases h
    · cases h
  · cases h

end Table

/-! ## Settings of a file -/

/-- The JSON document in the bytes of a file, with at most `limit` levels open at a time.  Bytes
that are no text hold none. -/
def jsonIn (limit : Nat) (content : List UInt8) : Except DocumentFault Value :=
  match Text.Utf8.decode content with
  | .ok text => Json.read text limit
  | .error _ => .error .malformed

theorem holds_of_jsonIn {limit : Nat} {content : List UInt8} {document : Value}
    (h : jsonIn limit content = .ok document) : Json.Holds limit document := by
  rw [jsonIn] at h
  split at h
  · exact Json.holds_of_read h
  · cases h

/-- What is made of a JSON file. -/
theorem ofFile_cases (p : Platform) {path : Path} (hext : path.extension = ".json")
    (content : List UInt8) :
    (∃ document, jsonIn p.maxNesting content = .ok document ∧
      ofFile p path content = ofDocumentAt p path document) ∨
    (jsonIn p.maxNesting content = .error .malformed ∧
      ∃ detail, ofFile p path content = .error (.unreadable detail)) ∨
    ∃ nesting, jsonIn p.maxNesting content = .error (.tooDeep nesting) ∧
      ofFile p path content = .error (.tooDeep nesting) := by
  have hread : ∀ text, readDocument p path text = (Json.read text p.maxNesting).mapError
      (ofDocumentFault (p.complaint .json text)) := by
    intro text
    have hformat : formatOf path = .json := if_pos (by rw [hext]; rfl)
    rw [readDocument, hformat, readValue]
  rw [jsonIn, ofFile]
  cases Text.Utf8.decode content with
  | error fault => exact .inr (.inl ⟨rfl, fault.message, rfl⟩)
  | ok text =>
    dsimp only
    rw [hread]
    cases Json.read text p.maxNesting with
    | ok document => exact .inl ⟨document, rfl, rfl⟩
    | error fault =>
      cases fault with
      | malformed => exact .inr (.inl ⟨rfl, _, rfl⟩)
      | tooDeep nesting => exact .inr (.inr ⟨nesting, rfl, rfl⟩)

end Settings

namespace Workspace

open Settings (GivesSettings IsUsable jsonIn)

/-- **What a JSON file comes to.**  A table that can be used gives the settings that it holds.  A
text that is no document, and a table that cannot be used, are reported with the path of the file.
Nothing but documents that are no tables, or that are nested too deeply, fails in another way. -/
theorem settings_of_json_file {w : Workspace} {asked : Option Path} {path : Path}
    {content : List UInt8} (hpath : (asked <|> w.configFile?) = some path)
    (hfile : w.find path = .file content) (hext : path.extension = ".json") :
    let json := jsonIn w.platform.maxNesting content
    (∀ s, w.settings asked = .ok s ↔
      ∃ entries, json = .ok (.table entries) ∧ GivesSettings path entries s) ∧
    ((∃ s, w.settings asked = .ok s) ↔
      ∃ entries, json = .ok (.table entries) ∧ IsUsable entries) ∧
    ((∃ fault report, w.settings asked = .error (path, fault) ∧
        fault.report? path = some report ∧ report.category = .config ∧
        report.location.path = some path.text) ↔
      json = .error .malformed ∨
        ∃ entries, json = .ok (.table entries) ∧ ¬IsUsable entries) ∧
    ((∃ fault, w.settings asked = .error (path, fault) ∧ fault.report? path = none) ↔
      (∃ nesting, json = .error (.tooDeep nesting)) ∨
        ∃ document, json = .ok document ∧ ∀ entries, document ≠ .table entries) := by
  intro json
  have hsettings : w.settings asked =
      (Settings.ofFile w.platform path content).mapError (path, ·) := by
    rw [settings, hpath]
    dsimp only
    rw [settingsAt, hfile]
  rw [hsettings]
  rcases Settings.ofFile_cases w.platform hext content with ⟨document, hjson, hof⟩ |
    ⟨hjson, detail, hof⟩ | ⟨nesting, hjson, hof⟩
  · rw [show json = _ from hjson, hof]
    by_cases htable : ∃ entries, document = .table entries
    · obtain ⟨entries, rfl⟩ := htable
      have hheld := Settings.holds_of_jsonIn hjson
      have hok := @Settings.ofDocumentAt_table_eq_ok_iff w.platform path entries hheld
      have husable := @Settings.exists_givesSettings_iff w.platform path entries hheld
      cases hat : Settings.ofDocumentAt w.platform path (.table entries) with
      | ok t =>
        simp only [hat] at hok
        simp [Except.mapError, ← husable, ← hok]
      | error fault =>
        have hreported := Settings.isReported_of_ofDocumentAt_table hheld hat
        simp only [hat] at hok
        simp [Except.mapError, SettingsFault.report?, hreported, ← husable, ← hok]
    · have hne : ∀ entries, document ≠ .table entries := fun entries h => htable ⟨entries, h⟩
      rw [Settings.ofDocumentAt_of_not_table hne]
      simp [Except.mapError, SettingsFault.report?, SettingsFault.isReported, hne]
  · rw [show json = _ from hjson, hof]
    simp [Except.mapError, SettingsFault.report?, SettingsFault.isReported]
  · rw [show json = _ from hjson, hof]
    simp [Except.mapError, SettingsFault.report?, SettingsFault.isReported]

example :
    Settings.ofFile {} ⟨.absolute, ["barchart.json"]⟩
        ("\x7b\"defaults\": \x7b\"extra\": \"=nolegend\", " ++
          "\"extra_gnuplot\": [1, null], \"log_level\": 0\x7d\x7d").toUTF8.data.toList =
      .ok { extra := ["=nolegend"], backend := ["1", "None"], logLevel := some "0"
            source := some ⟨.absolute, ["barchart.json"]⟩, names := ["defaults"] } := by
  decide +kernel

/-- An empty list in the configuration file fails without a report. -/
theorem settings_of_empty_list :
    let path : Path := ⟨.absolute, ["barchart.json"]⟩
    let w : Workspace :=
      { directory := ⟨.absolute, []⟩
        find := fun p => if p = path then .file [0x5B, 0x5D] else .missing
        input := []
        env := fun _ => none }
    w.configFile? = some path ∧ jsonIn w.platform.maxNesting [0x5B, 0x5D] = .ok (.list []) ∧
      (∀ s, w.settings none ≠ .ok s) ∧
      ∃ fault, w.settings none = .error (path, fault) ∧ fault.report? path = none := by
  intro path w
  have hpath : w.configFile? = some path := by decide +kernel
  have hjson : jsonIn w.platform.maxNesting [0x5B, 0x5D] = .ok (.list []) := rfl
  obtain ⟨-, -, -, hunreported⟩ :=
    @settings_of_json_file w none path [0x5B, 0x5D] hpath (by decide +kernel) (by decide +kernel)
  obtain ⟨fault, hfault, hreport⟩ := hunreported.mpr (.inr ⟨_, hjson, by simp⟩)
  exact ⟨hpath, hjson, by simp [hfault], fault, hfault, hreport⟩

end Workspace
end ChartScript
