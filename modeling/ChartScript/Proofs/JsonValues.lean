import ChartScript.Document.Json
import ChartScript.Proofs.Compilation
import ChartScript.Proofs.WrittenIntegers

/-!
# What JSON documents hold

A `Value` can be more than a JSON document can hold.  It is shared with the other kind of settings
file, so it has moments of time; its integers have any number of digits; its tables are lists of
entries, in which a name may occur twice; and it can be nested to any depth.  Settings are read from
values, and what can go wrong there depends on which of these occur.  `Json.Holds room value` is the
class of values that do come out of a document.

The bound on the depth is an index of the class and not a side condition on it.  Reading opens a
level with one level less to spare, so the reader and the class recurse in the same way, and what is
left of the bound at an item is what is needed to go on with the item.  Where the bound comes from
is a matter of the platform; everything here holds for any.

The readers of a value, of items and of entries call each other, with fuel for the number of calls.
`ReadersHold` is their common invariant, for one amount of fuel, and the step from one amount to the
next has a lemma for each of them; `Json.holds_of_read` is the induction.  The reader of entries is
the one with an accumulator: an entry with a name that is there already takes the place of the
other, so its part of the invariant has to speak of the entries read so far.

`Json.Holds.write_eq` is what the class is for.  Settings are texts, and a value that is no text is
written as one.  That fails beyond bounds on depth and digits; a value inside a document that was
read is within them.
-/

set_option autoImplicit false

namespace ChartScript

theorem orMalformed_eq_ok_iff {α : Type} {o : Option α} {a : α} :
    orMalformed o = .ok a ↔ o = some a := by
  cases o <;> simp [orMalformed]

/-! ## Names of a table -/

namespace Value

theorem mem_insert {name : Text} {value : Value} {entries : List (Text × Value)}
    {entry : Text × Value} (h : entry ∈ insert name value entries) :
    entry = (name, value) ∨ entry ∈ entries := by
  induction entries with
  | nil => exact .inl (List.mem_singleton.mp h)
  | cons first entries ih =>
    rw [insert] at h
    split at h
    · next hname =>
      rcases List.mem_cons.mp h with rfl | h
      · exact .inl (by rw [hname])
      · exact .inr (List.mem_cons_of_mem _ h)
    · rcases List.mem_cons.mp h with rfl | h
      · exact .inr List.mem_cons_self
      · exact (ih h).imp_right (List.mem_cons_of_mem _)

/-- Where no name occurs twice, the value of a name is the one that stands with it. -/
theorem lookup_eq_some_iff {entries : List (Text × Value)} (h : (entries.map Prod.fst).Nodup)
    {name : Text} {value : Value} : lookup name entries = some value ↔ (name, value) ∈ entries := by
  induction entries with
  | nil => simp [lookup]
  | cons first entries ih =>
    obtain ⟨n, v⟩ := first
    rw [List.map_cons, List.nodup_cons] at h
    by_cases hname : n = name
    · subst hname
      have hother : (n, value) ∉ entries := fun hmem =>
        h.1 (List.mem_map.mpr ⟨_, hmem, rfl⟩)
      simp [lookup, hother, eq_comm]
    · have hlookup : lookup name ((n, v) :: entries) = lookup name entries := by
        simp [lookup, hname]
      rw [hlookup, ih h.2]
      simp [Ne.symm hname]

theorem lookup_eq_none_iff {entries : List (Text × Value)} {name : Text} :
    lookup name entries = none ↔ ∀ value, (name, value) ∉ entries := by
  simp only [lookup, Option.map_eq_none_iff, List.find?_eq_none, beq_iff_eq]
  constructor
  · intro h value hmem
    exact h (name, value) hmem rfl
  · rintro h ⟨n, value⟩ hmem rfl
    exact h value hmem

/-- Giving a name a value keeps every other name from occurring twice. -/
theorem nodup_names_insert {entries : List (Text × Value)} (h : (entries.map Prod.fst).Nodup)
    (name : Text) (value : Value) : ((insert name value entries).map Prod.fst).Nodup := by
  induction entries with
  | nil => simp [insert]
  | cons first entries ih =>
    rw [List.map_cons, List.nodup_cons] at h
    rw [insert]
    split
    · rw [List.map_cons, List.nodup_cons]
      exact h
    · next hname =>
      rw [List.map_cons, List.nodup_cons]
      refine ⟨fun hmem => ?_, ih h.2⟩
      obtain ⟨entry, hentry, hfirst⟩ := List.mem_map.mp hmem
      rcases mem_insert hentry with rfl | hentry
      · exact hname hfirst.symm
      · exact h.1 (hfirst ▸ List.mem_map_of_mem hentry)

/-! ## Bounds on the text -/

theorem itemFault?_eq_none {room : Nat} {items : List Value}
    (h : ∀ item ∈ items, item.textFault? room = none) : itemFault? room items = none := by
  induction items with
  | nil => rw [itemFault?]
  | cons item items ih =>
    rw [List.forall_mem_cons] at h
    rw [itemFault?, h.1, ih h.2]
    rfl

theorem entryFault?_eq_none {room : Nat} {entries : List (Text × Value)}
    (h : ∀ entry ∈ entries, entry.2.textFault? room = none) :
    entryFault? room entries = none := by
  induction entries with
  | nil => rw [entryFault?]
  | cons entry entries ih =>
    rw [List.forall_mem_cons] at h
    rw [entryFault?, h.1, ih h.2]
    rfl

end Value

namespace Json

/-! ## The values of documents -/

/-- `Holds room value` says that `value` can be the value of a JSON document of which `room` levels
were left to be opened. -/
inductive Holds : Nat → Value → Prop
  | null {room : Nat} : Holds room .null
  | bool {room : Nat} (b : Bool) : Holds room (.bool b)
  | integer {room : Nat} {n : Int} (hn : Number.digitCount n.natAbs ≤ Number.maxIntegerDigits) :
      Holds room (.integer n)
  | number {room : Nat} (x : Binary64) : Holds room (.number x)
  | string {room : Nat} (s : Text) : Holds room (.string s)
  | list {room : Nat} {items : List Value} (hitems : ∀ item ∈ items, Holds room item) :
      Holds (room + 1) (.list items)
  | table {room : Nat} {entries : List (Text × Value)}
      (hnames : (entries.map Prod.fst).Nodup)
      (hentries : ∀ entry ∈ entries, Holds room entry.2) : Holds (room + 1) (.table entries)

/-- More levels do no harm. -/
theorem Holds.mono {room room' : Nat} {v : Value} (h : Holds room v) (hle : room ≤ room') :
    Holds room' v := by
  induction h generalizing room' with
  | null => exact .null
  | bool b => exact .bool b
  | integer hn => exact .integer hn
  | number x => exact .number x
  | string s => exact .string s
  | list _ ih =>
    obtain ⟨room', rfl⟩ := Nat.exists_eq_add_of_le' (Nat.le_of_add_left_le hle)
    exact .list fun item hitem => ih item hitem (Nat.le_of_succ_le_succ hle)
  | table hnames _ ih =>
    obtain ⟨room', rfl⟩ := Nat.exists_eq_add_of_le' (Nat.le_of_add_left_le hle)
    exact .table hnames fun entry hentry => ih entry hentry (Nat.le_of_succ_le_succ hle)

theorem Holds.nodup_names {room : Nat} {entries : List (Text × Value)}
    (h : Holds room (.table entries)) : (entries.map Prod.fst).Nodup := by
  cases h with
  | table hnames => exact hnames

/-- The values of a table have a level less to open. -/
theorem Holds.of_mem_entries {limit : Nat} {entries : List (Text × Value)} {entry : Text × Value}
    (h : Holds limit (.table entries)) (hentry : entry ∈ entries) :
    ∃ room < limit, Holds room entry.2 := by
  cases h with
  | @table room _ _ hentries => exact ⟨room, Nat.lt_succ_self room, hentries entry hentry⟩

theorem holds_of_readNumber {room : Nat} {cs rest : Text} {v : Value}
    (h : readNumber cs = some (v, rest)) : Holds room v := by
  unfold readNumber at h
  simp only [Option.bind_eq_bind, Option.bind_eq_some_iff] at h
  obtain ⟨whole, -, h⟩ := h
  split at h
  · obtain ⟨n, hn, h⟩ := Option.bind_eq_some_iff.mp h
    obtain ⟨rfl, -⟩ := Prod.mk.inj (Option.some.inj h)
    exact .integer (Number.integer?_eq_some_iff.mp hn).digitCount_natAbs_le
  · obtain ⟨rfl, -⟩ := Prod.mk.inj (Option.some.inj h)
    exact .number _

theorem holds_of_readScalar {room : Nat} {cs rest : Text} {v : Value}
    (h : readScalar cs = some (v, rest)) : Holds room v := by
  have hword : ∀ {word : String} {value : Value}, Holds room value →
      (Scan.after? word cs).map (value, ·) = some (v, rest) → Holds room v := by
    intro word value hvalue hword
    obtain ⟨tail, -, hpair⟩ := Option.map_eq_some_iff.mp hword
    rwa [← (Prod.mk.inj hpair).1]
  have horElse : ∀ {a b : Option (Value × Text)}, (a <|> b) = some (v, rest) →
      a = some (v, rest) ∨ b = some (v, rest) := by
    intro a b hab
    cases a with
    | none => exact .inr hab
    | some pair => exact .inl hab
  rw [readScalar] at h
  rcases horElse h with h | h
  · exact hword .null h
  rcases horElse h with h | h
  · exact hword (.bool true) h
  rcases horElse h with h | h
  · exact hword (.bool false) h
  rcases horElse h with h | h
  · exact hword (.number _) h
  rcases horElse h with h | h
  · exact hword (.number _) h
  rcases horElse h with h | h
  · exact hword (.number _) h
  · exact holds_of_readNumber h

/-- What the readers give with a bound on the number of their calls. -/
structure ReadersHold (fuel : Nat) : Prop where
  value : ∀ {room : Nat} {cs rest : Text} {v : Value},
    readValue fuel room cs = .ok (v, rest) → Holds room v
  items : ∀ {room : Nat} {cs rest : Text} {items : List Value},
    readItems fuel room cs = .ok (items, rest) → ∀ item ∈ items, Holds room item
  entries : ∀ {room : Nat} {cs rest : Text} {before entries : List (Text × Value)},
    readEntries fuel room before cs = .ok (entries, rest) → (before.map Prod.fst).Nodup →
      (∀ entry ∈ before, Holds room entry.2) →
      (entries.map Prod.fst).Nodup ∧ ∀ entry ∈ entries, Holds room entry.2

section Step

variable {fuel room : Nat} {cs rest : Text}

theorem ReadersHold.readValue_succ (ih : ReadersHold fuel) {v : Value}
    (h : readValue (fuel + 1) room cs = .ok (v, rest)) : Holds room v := by
  unfold readValue at h
  split at h
  · obtain ⟨s, -, h⟩ := bind_eq_ok_iff.mp h
    obtain ⟨rfl, -⟩ := Prod.mk.inj (Except.ok.inj h)
    exact .string _
  · cases h
  · split at h
    · obtain ⟨rfl, -⟩ := Prod.mk.inj (Except.ok.inj h)
      exact .list (by simp)
    · obtain ⟨items, hitems, h⟩ := bind_eq_ok_iff.mp h
      obtain ⟨rfl, -⟩ := Prod.mk.inj (Except.ok.inj h)
      exact .list (ih.items hitems)
  · cases h
  · split at h
    · obtain ⟨rfl, -⟩ := Prod.mk.inj (Except.ok.inj h)
      exact .table (by simp) (by simp)
    · obtain ⟨entries, hentries, h⟩ := bind_eq_ok_iff.mp h
      obtain ⟨rfl, -⟩ := Prod.mk.inj (Except.ok.inj h)
      obtain ⟨hnames, hvalues⟩ := ih.entries hentries (by simp) (by simp)
      exact .table hnames hvalues
  · exact holds_of_readScalar (orMalformed_eq_ok_iff.mp h)

theorem ReadersHold.readItems_succ (ih : ReadersHold fuel) {items : List Value}
    (h : readItems (fuel + 1) room cs = .ok (items, rest)) : ∀ item ∈ items, Holds room item := by
  unfold readItems at h
  obtain ⟨⟨first, tail⟩, hfirst, h⟩ := bind_eq_ok_iff.mp h
  dsimp only at h
  split at h
  · obtain ⟨rfl, -⟩ := Prod.mk.inj (Except.ok.inj h)
    simpa using ih.value hfirst
  · obtain ⟨more, hmore, h⟩ := bind_eq_ok_iff.mp h
    obtain ⟨rfl, -⟩ := Prod.mk.inj (Except.ok.inj h)
    exact List.forall_mem_cons.mpr ⟨ih.value hfirst, ih.items hmore⟩
  · cases h

theorem ReadersHold.readEntries_succ (ih : ReadersHold fuel) {before entries : List (Text × Value)}
    (h : readEntries (fuel + 1) room before cs = .ok (entries, rest))
    (hnames : (before.map Prod.fst).Nodup) (hbefore : ∀ entry ∈ before, Holds room entry.2) :
    (entries.map Prod.fst).Nodup ∧ ∀ entry ∈ entries, Holds room entry.2 := by
  have hquote : ∃ tail, cs = CodePoint.char '"' :: tail := by
    unfold readEntries at h
    split at h
    · cases h
    · exact ⟨_, rfl⟩
    · cases h
  obtain ⟨tail, rfl⟩ := hquote
  rw [readEntries] at h
  obtain ⟨⟨name, tail⟩, -, h⟩ := bind_eq_ok_iff.mp h
  dsimp only at h
  split at h
  · obtain ⟨⟨v, tail⟩, hv, h⟩ := bind_eq_ok_iff.mp h
    dsimp only at h
    have hinserted : ∀ entry ∈ Value.insert name v before, Holds room entry.2 := by
      intro entry hentry
      rcases Value.mem_insert hentry with rfl | hentry
      · exact ih.value hv
      · exact hbefore entry hentry
    split at h
    · obtain ⟨rfl, -⟩ := Prod.mk.inj (Except.ok.inj h)
      exact ⟨Value.nodup_names_insert hnames name v, hinserted⟩
    · exact ih.entries h (Value.nodup_names_insert hnames name v) hinserted
    · cases h
  · cases h

end Step

theorem readersHold (fuel : Nat) : ReadersHold fuel := by
  induction fuel with
  | zero =>
    refine ⟨?_, ?_, ?_⟩
    · intro room cs rest v h
      cases h
    · intro room cs rest items h
      cases h
    · intro room cs rest before entries h
      cases h
  | succ fuel ih => exact ⟨ih.readValue_succ, ih.readItems_succ, ih.readEntries_succ⟩

/-- **Whatever is read as a document belongs to the class.** -/
theorem holds_of_read {text : Text} {limit : Nat} {v : Value} (h : read text limit = .ok v) :
    Holds limit v := by
  rw [read] at h
  obtain ⟨⟨value, rest⟩, hvalue, h⟩ := bind_eq_ok_iff.mp h
  dsimp only at h
  split at h
  · obtain rfl := Except.ok.inj h
    exact (readersHold _).value hvalue
  · cases h

/-! ## Values as text -/

theorem Holds.textFault?_eq_none {room : Nat} {v : Value} (h : Holds room v) :
    v.textFault? (room + 1) = none := by
  induction h with
  | null => simp [Value.textFault?]
  | bool => simp [Value.textFault?]
  | integer hn => simp [Value.textFault?, Nat.not_lt.mpr hn]
  | number => simp [Value.textFault?]
  | string => simp [Value.textFault?]
  | list _ ih =>
    rw [Value.textFault?]
    exact Value.itemFault?_eq_none ih
  | table _ _ ih =>
    rw [Value.textFault?]
    exact Value.entryFault?_eq_none ih

/-- The text of a value in a document is not out of bounds. -/
theorem Holds.write_eq {room limit : Nat} {v : Value} (h : Holds room v) (hroom : room < limit) :
    v.write limit = .ok v.text := by
  obtain ⟨more, hlimit⟩ := Nat.exists_eq_add_of_lt hroom
  rw [Value.write, hlimit, (h.mono (Nat.le_add_right room more)).textFault?_eq_none]

end Json
end ChartScript
