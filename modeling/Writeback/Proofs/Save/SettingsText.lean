import Mathlib.Data.List.Forall2
import Writeback.Proofs.Yaml.Codec
import Writeback.Save.SettingsText

/-!
# What a text of settings is read as

A text that gives numbers to names is read as the defaults with the values of the settings among
them, in any order and beside any other names, unless a setting has two values or one that is no
unsigned 64-bit number. This holds of every text of which the library for YAML tells such entries,
whatever else the library does. Of a lawful one it follows for texts of one entry on each line, and
the settings that are written are such a text.
-/

namespace Writeback.Settings

/-- The name by which a text gives a value to a setting. -/
def Key.name : Key → String
  | delayMs => "delay_ms"
  | maxInstances => "max_instances"
  | batchSize => "batch_size"

theorem Key.ofName?_eq_some_iff {name : String} {key : Key} :
    Key.ofName? name = some key ↔ key.name = name := by
  constructor
  · intro h
    unfold ofName? at h
    split_ifs at h with delay instances size
    · cases h
      exact delay.symm
    · cases h
      exact instances.symm
    · cases h
      exact size.symm
  · rintro rfl
    cases key
    · decide
    · decide
    · decide

theorem Key.name_inj {key other : Key} (same : key.name = other.name) : key = other :=
  Option.some.inj ((ofName?_eq_some_iff.mpr same).symm.trans (ofName?_eq_some_iff.mpr rfl))

theorem Key.ofName?_eq_none_iff {name : String} :
    Key.ofName? name = none ↔ ∀ key : Key, key.name ≠ name := by
  simp only [Option.eq_none_iff_forall_ne_some, ne_eq, ofName?_eq_some_iff]

/-- The settings with the values that a list of named numbers has for them. -/
def withValues (s : Settings) (entries : List (String × Nat)) : Settings where
  delayMs := ((entries.lookup "delay_ms").map UInt64.ofNat).getD s.delayMs
  maxInstances := ((entries.lookup "max_instances").map UInt64.ofNat).getD s.maxInstances
  batchSize := ((entries.lookup "batch_size").map UInt64.ofNat).getD s.batchSize

section Cons

variable (s : Settings) {name : String} {key : Key} (n : Nat) {rest : List (String × Nat)}

theorem withValues_cons_of_unknown (unknown : ∀ key : Key, key.name ≠ name) :
    s.withValues ((name, n) :: rest) = s.withValues rest := by
  have delay := beq_false_of_ne (unknown .delayMs)
  have instances := beq_false_of_ne (unknown .maxInstances)
  have size := beq_false_of_ne (unknown .batchSize)
  simp only [Key.name] at delay instances size
  simp only [withValues, List.lookup_cons, delay, instances, size]

theorem withValues_cons_name (alone : key.name ∉ rest.map Prod.fst) :
    s.withValues ((key.name, n) :: rest) = (s.put key (UInt64.ofNat n)).withValues rest := by
  have absent : rest.lookup key.name = none := by
    rw [List.lookup_eq_none_iff]
    intro entry mem
    exact bne_iff_ne.mpr fun same => alone (List.mem_map.mpr ⟨entry, mem, same.symm⟩)
  cases key with
  | delayMs =>
    rw [Key.name] at absent
    simp [withValues, put, Key.name, List.lookup_cons, absent]
  | maxInstances =>
    rw [Key.name] at absent
    simp [withValues, put, Key.name, List.lookup_cons, absent]
  | batchSize =>
    rw [Key.name] at absent
    simp [withValues, put, Key.name, List.lookup_cons, absent]

end Cons

/-- Whether a list of named numbers gives at most one value to each setting, and none to those that
have one already, and all these values are unsigned 64-bit numbers. -/
structure Admits (seen : List Key) (entries : List (String × Nat)) : Prop where
  once : ∀ key : Key, (entries.map Prod.fst).count key.name ≤ if key ∈ seen then 0 else 1
  inRange : ∀ (key : Key) (n : Nat), (key.name, n) ∈ entries → n < 2 ^ 64

section Admits

variable {seen : List Key} {name : String} {key : Key} {n : Nat} {rest : List (String × Nat)}

theorem admits_cons_of_unknown (unknown : ∀ key : Key, key.name ≠ name) :
    Admits seen ((name, n) :: rest) ↔ Admits seen rest := by
  have count (key : Key) : (((name, n) :: rest).map Prod.fst).count key.name =
      (rest.map Prod.fst).count key.name := by
    rw [List.map_cons, List.count_cons_of_ne (unknown key).symm]
  constructor
  · rintro ⟨once, inRange⟩
    exact ⟨fun key => count key ▸ once key, fun key m mem => inRange key m (.tail _ mem)⟩
  · rintro ⟨once, inRange⟩
    refine ⟨fun key => (count key).symm ▸ once key, fun key m mem => ?_⟩
    rcases List.mem_cons.mp mem with first | mem
    · exact absurd (congrArg Prod.fst first) (unknown key)
    · exact inRange key m mem

theorem admits_cons_name :
    Admits seen ((key.name, n) :: rest) ↔ key ∉ seen ∧ n < 2 ^ 64 ∧ Admits (key :: seen) rest := by
  have apart {other : Key} (ne : other ≠ key) :
      (key.name :: rest.map Prod.fst).count other.name = (rest.map Prod.fst).count other.name :=
    List.count_cons_of_ne fun same => ne (Key.name_inj same).symm
  constructor
  · rintro ⟨once, inRange⟩
    have first := once key
    rw [List.map_cons, List.count_cons_self] at first
    have fresh : key ∉ seen := by
      intro mem
      simp [mem] at first
    refine ⟨fresh, inRange key n List.mem_cons_self, fun other => ?_,
      fun other m mem => inRange other m (.tail _ mem)⟩
    by_cases same : other = key
    · subst same
      simpa [fresh] using first
    · simpa [same, apart same] using once other
  · rintro ⟨fresh, small, once, inRange⟩
    refine ⟨fun other => ?_, fun other m mem => ?_⟩
    · by_cases same : other = key
      · subst same
        simpa [fresh] using once other
      · simpa [same, apart same] using once other
    · rcases List.mem_cons.mp mem with first | mem
      · cases congrArg Prod.snd first
        exact small
      · exact inRange other m mem

end Admits

/-- Whether what a library tells of an entry gives a number to a name: the name is the key, and if
it is that of a setting, the value is the number, or none if the number is too large. -/
def Gives (told : String × Option UInt64) (entry : String × Nat) : Prop :=
  told.1 = entry.1 ∧ ((∃ key : Key, key.name = entry.1) → told.2 = Yaml.word? entry.2)

/-- The entries of a mapping are visited one by one: an unknown name is passed over, and a setting
gets its value if it has none yet and the value is in range. -/
theorem ofEntries?_of_gives {told : List (String × Option UInt64)} {entries : List (String × Nat)}
    (gives : List.Forall₂ Gives told entries) (seen : List Key) (s : Settings) :
    (Admits seen entries → ofEntries? told seen s = some (s.withValues entries)) ∧
    (¬ Admits seen entries → ofEntries? told seen s = none) := by
  induction gives generalizing seen s with
  | nil =>
    refine ⟨fun _ => rfl, fun refused => absurd ⟨fun key => ?_, ?_⟩ refused⟩
    · exact Nat.zero_le _
    · exact fun _ _ mem => absurd mem List.not_mem_nil
  | @cons first entry told entries gives _ ih =>
    obtain ⟨name, n⟩ := entry
    obtain ⟨key, value⟩ := first
    obtain ⟨rfl, number⟩ := gives
    rw [ofEntries?]
    cases found : Key.ofName? key with
    | none =>
      have unknown := Key.ofName?_eq_none_iff.mp found
      rw [admits_cons_of_unknown unknown, withValues_cons_of_unknown s n unknown]
      exact ih seen s
    | some known =>
      have same := Key.ofName?_eq_some_iff.mp found
      obtain rfl : value = Yaml.word? n := number ⟨known, same⟩
      rw [← same, admits_cons_name]
      dsimp only
      constructor
      · rintro ⟨fresh, small, admits⟩
        have alone : known.name ∉ entries.map Prod.fst := by
          simpa [List.count_eq_zero] using admits.once known
        rw [if_neg (by simpa using fresh), Yaml.word?_of_lt small, Option.bind_some,
          withValues_cons_name s n alone]
        exact (ih (known :: seen) _).1 admits
      · intro refused
        by_cases fresh : known ∈ seen
        · rw [if_pos (by simpa using fresh)]
        · rw [if_neg (by simpa using fresh)]
          by_cases small : n < 2 ^ 64
          · rw [Yaml.word?_of_lt small, Option.bind_some]
            exact (ih (known :: seen) _).2 fun admits => refused ⟨fresh, small, admits⟩
          · rw [Yaml.word?_of_not_lt small, Option.bind_none]

section Text

variable {yaml : Yaml.Codec}

/-- Whether a text is read as a list of numbers by name: as the defaults with the values of the
settings among them, when no setting has two values or one that is no unsigned 64-bit number, and
otherwise as an error. -/
def IsReadAs (yaml : Yaml.Codec) (text : String) (entries : List (String × Nat)) : Prop :=
  let once := ∀ key : Key, (entries.map Prod.fst).count key.name ≤ 1
  let inRange := ∀ (key : Key) (n : Nat), (key.name, n) ∈ entries → n < 2 ^ 64
  (once → inRange → ofYaml? text yaml = some (({} : Settings).withValues entries)) ∧
    (¬ once ∨ ¬ inRange → ofYaml? text yaml = none)

theorem isReadAs_of_entries? {text : String} {told : List (String × Option UInt64)}
    {entries : List (String × Nat)} (read : yaml.entries? text = some told)
    (gives : List.Forall₂ Gives told entries) : IsReadAs yaml text entries := by
  have visit : ofYaml? text yaml = ofEntries? told [] {} := by
    rw [ofYaml?, read, Option.bind_some]
  obtain ⟨taken, refused⟩ := ofEntries?_of_gives gives [] {}
  rw [← visit] at taken refused
  refine ⟨fun once inRange => taken ⟨by simpa using once, inRange⟩, fun h => refused ?_⟩
  rintro ⟨once, inRange⟩
  rcases h with twice | large
  · exact twice (by simpa using once)
  · exact large inRange

theorem Key.isPlainKey_name (key : Key) : Yaml.isPlainKey key.name.toList = true := by
  cases key
  · decide +kernel
  · decide +kernel
  · decide +kernel

theorem Key.isFieldName_name (key : Key) : Yaml.isFieldName key.name = true := by
  cases key
  · decide +kernel
  · decide +kernel
  · decide +kernel

/-- A text of plain keys with numbers, one on each line, is read as these. -/
theorem isReadAs_mappingText (lawful : yaml.Lawful) {entries : List (String × Nat)}
    (plain : ∀ entry ∈ entries, (∀ key : Key, key.name ≠ entry.1) →
      Yaml.isPlainKey entry.1.toList = true) :
    IsReadAs yaml (Yaml.mappingText entries) entries := by
  have keys : ∀ entry ∈ entries, Yaml.isPlainKey entry.1.toList = true := by
    intro entry mem
    by_cases known : ∃ key : Key, key.name = entry.1
    · obtain ⟨key, same⟩ := known
      exact same ▸ key.isPlainKey_name
    · exact plain entry mem fun key same => known ⟨key, same⟩
  refine isReadAs_of_entries? (lawful.reads entries keys) ?_
  rw [List.forall₂_map_left_iff]
  exact List.forall₂_same.mpr fun entry _ => ⟨rfl, fun _ => rfl⟩

theorem ofYaml?_toYaml (lawful : yaml.Lawful) (s : Settings) :
    ofYaml? (s.toYaml yaml) yaml = some s := by
  let entries : List (String × Nat) := [("delay_ms", s.delayMs.toNat),
    ("max_instances", s.maxInstances.toNat), ("batch_size", s.batchSize.toNat)]
  have written : s.toYaml yaml = Yaml.mappingText entries := by
    refine lawful.writes _ (List.cons_ne_nil _ _) ?_
    simp only [List.forall_mem_cons]
    exact ⟨Key.isFieldName_name .delayMs, Key.isFieldName_name .maxInstances,
      Key.isFieldName_name .batchSize, by simp⟩
  have known : ∀ entry ∈ entries, ∃ key : Key, key.name = entry.1 ∧ entry.2 < 2 ^ 64 := by
    simp only [entries, List.forall_mem_cons]
    exact ⟨⟨.delayMs, rfl, s.delayMs.toNat_lt⟩, ⟨.maxInstances, rfl, s.maxInstances.toNat_lt⟩,
      ⟨.batchSize, rfl, s.batchSize.toNat_lt⟩, by simp⟩
  have read := isReadAs_mappingText lawful fun entry mem unknown => by
    obtain ⟨key, same, -⟩ := known entry mem
    exact absurd same (unknown key)
  have once (key : Key) : ["delay_ms", "max_instances", "batch_size"].count key.name ≤ 1 := by
    cases key
    · decide
    · decide
    · decide
  have same := read.1 once fun key n mem => by
    obtain ⟨-, -, small⟩ := known _ mem
    exact small
  have values : withValues {} entries = s := by simp [withValues, entries, List.lookup_cons]
  rw [written, same, values]

end Text

/-- With any lawful library for YAML, settings that are written are read back as they were, and a
text that gives numbers to names, a line for each, is read as the defaults with the values of the
settings among them, in any order and beside any other plain names. So is any other text of which
the library tells such entries, however it is laid out, its names are quoted and the values of other
names are written. In both a setting that has two values is an error, and so is a value that is no
unsigned 64-bit number. -/
theorem text_gives_settings {yaml : Yaml.Codec} (lawful : yaml.Lawful) :
    (∀ s : Settings, ofYaml? (s.toYaml yaml) yaml = some s) ∧
      (∀ entries : List (String × Nat),
        (∀ entry ∈ entries, (∀ key : Key, key.name ≠ entry.1) →
          Yaml.isPlainKey entry.1.toList = true) →
        IsReadAs yaml (Yaml.mappingText entries) entries) ∧
      ∀ (text : String) (told : List (String × Option UInt64)) (entries : List (String × Nat)),
        yaml.entries? text = some told → List.Forall₂ Gives told entries →
        IsReadAs yaml text entries :=
  ⟨ofYaml?_toYaml lawful, fun _ => isReadAs_mappingText lawful, fun _ _ _ => isReadAs_of_entries?⟩

/-- Settings that are lines in any order, and settings in a text of another layout, each beside a
number of retries that no setting has. -/
theorem text_gives_settings_beside_retries :
    let lines := [("retries", 12), ("max_instances", 8), ("retries", 4), ("delay_ms", 0)]
    let twice := [("delay_ms", 1), ("retries", 2), ("delay_ms", 1)]
    let text := "# quiet\n  'delay_ms' : 7 # ms\n  retries: many\n"
    Yaml.codec.Lawful ∧
    ofYaml? (toYaml ⟨0, 18446744073709551615, 1⟩) = some ⟨0, 18446744073709551615, 1⟩ ∧
    ((∀ entry ∈ lines ++ twice, Yaml.isPlainKey entry.1.toList = true) ∧
      ofYaml? (Yaml.mappingText lines) = some ⟨0, 8, 1000⟩ ∧
      ofYaml? (Yaml.mappingText twice) = none) ∧
    Yaml.codec.entries? text = some [("delay_ms", some 7), ("retries", none)] ∧
      ofYaml? text = some ⟨7, 3, 1000⟩ := by
  intro lines twice text
  obtain ⟨written, line, laidOut⟩ := text_gives_settings Yaml.lawful_codec
  have plain : ∀ entry ∈ lines ++ twice, Yaml.isPlainKey entry.1.toList = true := by
    decide +kernel
  have read : Yaml.codec.entries? text = some [("delay_ms", some 7), ("retries", none)] := by
    decide +kernel
  refine ⟨Yaml.lawful_codec, written _, ⟨plain, ?_, ?_⟩, read, ?_⟩
  · refine (line lines fun entry mem _ => plain entry (List.mem_append_left _ mem)).1 ?_ ?_
    · rintro ⟨⟩ <;> decide
    · exact fun key n mem => (by decide : ∀ entry ∈ lines, entry.2 < 2 ^ 64) _ mem
  · refine (line twice fun entry mem _ => plain entry (List.mem_append_right _ mem)).2 (Or.inl ?_)
    exact fun once => absurd (once .delayMs) (by decide)
  · have gives : List.Forall₂ Gives [("delay_ms", some 7), ("retries", none)]
        [("delay_ms", 7), ("retries", 0)] := by
      refine .cons ⟨rfl, fun _ => rfl⟩ (.cons ⟨rfl, ?_⟩ .nil)
      rintro ⟨⟨⟩, same⟩ <;> exact absurd same (by decide)
    refine (laidOut text _ _ read gives).1 ?_ ?_
    · rintro ⟨⟩ <;> decide
    · exact fun key n mem => (by decide : ∀ entry ∈ [("delay_ms", 7), ("retries", 0)],
        entry.2 < 2 ^ 64) _ mem

end Writeback.Settings
