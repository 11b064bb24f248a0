import Writeback.Merge.Snapshot
import Writeback.Proofs.Json.Collisions
import Writeback.Proofs.Json.Readers

/-!
# What becomes of the listed fields

A change that only the server made is never reverted, wherever it stands: an edit above it would
have to differ from the loaded version there, and could only be safe by agreeing with the server's.

A local edit of a listed field is named as a conflict or stands in the merged document, as far as
writing at a path can bring it there. An array does not grow by a write beyond its end, and an
element that is removed becomes null, so an edit that needs one of these is not carried over and is
no conflict either. Two listed fields that are different keys of the local version write over each
other where the server has one array element for both.
-/

namespace Writeback

open Json

/-- No two of three versions are equal. -/
def Diverged {α : Type} [DeepEq α] (previous current remote : α) : Prop :=
  deepEq previous current = false ∧ deepEq previous remote = false ∧ deepEq current remote = false

/-- The local version was edited, and the server has the loaded or the local one. -/
def SafelyEdited {α : Type} [DeepEq α] (previous current remote : α) : Prop :=
  deepEq previous current = false ∧ (deepEq previous remote = true ∨ deepEq current remote = true)

instance {α : Type} [DeepEq α] (previous current remote : α) :
    Decidable (Diverged previous current remote) :=
  inferInstanceAs (Decidable (_ ∧ _ ∧ _))

instance {α : Type} [DeepEq α] (previous current remote : α) :
    Decidable (SafelyEdited previous current remote) :=
  inferInstanceAs (Decidable (_ ∧ (_ ∨ _)))

namespace Change

variable {α : Type} [DeepEq α] {previous current remote : α}

theorem conflict_between :
    (between previous current remote).conflict = true ↔
      deepEq previous current = false ∧ deepEq previous remote = false ∧
        deepEq current remote = false := by
  simp [between, and_assoc, and_left_comm]

/-- A local edit is safe when the server has the loaded version still, or made the same edit. -/
theorem isSafe_between :
    (between previous current remote).isSafe = true ↔
      deepEq previous current = false ∧
        (deepEq previous remote = true ∨ deepEq current remote = true) := by
  cases h : deepEq previous current <;> simp [between, isSafe, h, or_iff_not_imp_left]

theorem isLocal_between :
    (between previous current remote).isLocal = true ↔ deepEq previous current = false := by
  simp [between]

theorem not_isLocal_between :
    ¬ (between previous current remote).isLocal = true ↔ deepEq previous current = true := by
  simp [between]

theorem conflict_or_isSafe (edited : deepEq previous current = false) (remote : α) :
    (between previous current remote).conflict = true ∨
      (between previous current remote).isSafe = true := by
  rw [conflict_between, isSafe_between]
  cases deepEq previous remote <;> cases deepEq current remote <;> simp [edited]

end Change

/-! ### One field -/

section Field

variable {base current remote : Json} {key : String} (root : Option String)

theorem update_of_safelyEdited
    (safe : SafelyEdited (base.get? key) (current.get? key) (remote.get? key)) :
    (resolveField base current remote key root).update =
      some ⟨root.getD key, current.get? (root.getD key)⟩ :=
  if_pos (Change.isSafe_between.mpr safe)

theorem update_of_not_safelyEdited
    (held : ¬ SafelyEdited (base.get? key) (current.get? key) (remote.get? key)) :
    (resolveField base current remote key root).update = none :=
  if_neg fun safe => held (Change.isSafe_between.mp safe)

end Field

theorem FieldResolution.applyTo_of_update {r : FieldResolution} {path : String}
    {value : Option Json} (update : r.update = some ⟨path, value⟩) (container : Json) :
    r.applyTo container = container.set path value := by
  rw [applyTo, update]

theorem FieldResolution.applyTo_of_none {r : FieldResolution} (none : r.update = none)
    (container : Json) : r.applyTo container = container := by
  rw [applyTo, none]

namespace Snapshot

/-- All three versions are ordered documents. -/
structure Ordered (s : Snapshot) : Prop where
  base : s.base.Ordered
  current : s.current.Ordered
  remote : s.remote.Ordered

instance (s : Snapshot) : Decidable s.Ordered :=
  decidable_of_iff (s.base.Ordered ∧ s.current.Ordered ∧ s.remote.Ordered)
    ⟨fun ⟨base, current, remote⟩ => ⟨base, current, remote⟩,
      fun h => ⟨h.base, h.current, h.remote⟩⟩

/-- A snapshot that is read from an ordered document is ordered. -/
theorem ordered_of_read {x : Json} (hx : x.Ordered) {s : Snapshot} (h : reader.read x = .ok s) :
    s.Ordered := by
  let Fine (acc : Option Json × Option Json × Option Json) : Prop :=
    (∀ y ∈ acc.1, y.Ordered) ∧ (∀ y ∈ acc.2.1, y.Ordered) ∧ ∀ y ∈ acc.2.2, y.Ordered
  have keeps : RecordReader.Keeps reader.fields Fine := by
    intro field mem y acc acc' hy ⟨base, current, remote⟩ read
    simp only [reader, List.mem_cons, List.not_mem_nil, or_false] at mem
    rcases mem with rfl | rfl | rfl
    · cases read
      exact ⟨hy.place, current, remote⟩
    · cases read
      exact ⟨base, hy.place, remote⟩
    · cases read
      exact ⟨base, current, hy.place⟩
  have empty : Fine reader.empty := ⟨nofun, nofun, nofun⟩
  obtain ⟨acc, ⟨base, current, remote⟩, finished⟩ := RecordReader.exists_of_read keeps empty hx h
  obtain ⟨b, hb, finished⟩ := Reader.bind_eq_ok.mp finished
  obtain ⟨c, hc, finished⟩ := Reader.bind_eq_ok.mp finished
  obtain ⟨r, hr, finished⟩ := Reader.bind_eq_ok.mp finished
  cases finished
  exact ⟨base b (eq_some_of_required hb), current c (eq_some_of_required hc),
    remote r (eq_some_of_required hr)⟩

/-- The local edit of a field is safe to write. -/
def IsSafe (s : Snapshot) (field : String) : Prop :=
  deepEq (s.base.get? field) (s.current.get? field) = false ∧
    (deepEq (s.base.get? field) (s.remote.get? field) = true ∨
      deepEq (s.current.get? field) (s.remote.get? field) = true)

instance (s : Snapshot) (field : String) : Decidable (s.IsSafe field) :=
  inferInstanceAs (Decidable (_ ∧ (_ ∨ _)))

theorem applyTo_of_isSafe {s : Snapshot} {field : String} (safe : s.IsSafe field) (merged : Json) :
    (s.resolveField field).applyTo merged = merged.set field (s.current.get? field) :=
  FieldResolution.applyTo_of_update (update_of_safelyEdited none safe) merged

theorem applyTo_of_not_isSafe {s : Snapshot} {field : String} (held : ¬ s.IsSafe field)
    (merged : Json) : (s.resolveField field).applyTo merged = merged :=
  FieldResolution.applyTo_of_none (update_of_not_safelyEdited none held) merged

theorem Ordered.applyTo {s : Snapshot} (h : s.Ordered) (field : String) {merged : Json}
    (ordered : merged.Ordered) : ((s.resolveField field).applyTo merged).Ordered := by
  by_cases safe : s.IsSafe field
  · rw [applyTo_of_isSafe safe]
    exact ordered.set field (h.current.at? (segments field))
  · rw [applyTo_of_not_isSafe safe]
    exact ordered

/-- A document after the edits of some fields were written one by one. -/
def writeFields (s : Snapshot) (fields : List String) (merged : Json) : Json :=
  fields.foldl (fun merged field => (s.resolveField field).applyTo merged) merged

theorem mergeFields_eq_writeFields (s : Snapshot) (fields : List String) :
    s.mergeFields fields = s.writeFields fields s.remote := rfl

/-- What every edit keeps holds in the end. -/
theorem writeFields_induction {P : Json → Prop} {s : Snapshot} {fields : List String}
    {merged : Json} (start : P merged)
    (step : ∀ field ∈ fields, ∀ merged, P merged → P ((s.resolveField field).applyTo merged)) :
    P (s.writeFields fields merged) :=
  List.foldlRecOn fields _ start fun merged h field mem => step field mem merged h

/-- Custom attribute values are under their own key only. -/
theorem get?_putAttributes {path : String} (elsewhere : (segments path).head? ≠ some attributeKey)
    (values : List AttributeValue) (merged : Json) :
    (putAttributes values merged).get? path = merged.get? path := by
  cases merged with
  | obj fields =>
    rw [get?_eq_lookup, get?_eq_lookup]
    cases split : segments path with
    | nil => exact absurd split (segments_ne_nil path)
    | cons segment rest =>
      rw [split] at elsewhere
      have ne : attributeKey ≠ segment := fun same => elsewhere (congrArg some same.symm)
      rw [lookup_cons, lookup_cons (some (obj fields)), putAttributes, lookup_some, lookup_some,
        at?_singleton, at?_singleton, child?, child?, Fields.get?_insert, if_neg ne]
  | _ => rfl

section Resolve

variable {s : Snapshot}

theorem resolve_of_absent (absent : s.base.field? attributeKey = none) (fields : List String) :
    s.resolve fields = ⟨s.mergeFields fields, s.fieldConflicts fields⟩ := by
  rw [resolve, absent]

variable (present : s.base.field? attributeKey ≠ none)
include present

theorem resolve_of_unreadable (unreadable : s.attributeLists? = none) (fields : List String) :
    s.resolve fields =
      ⟨s.mergeFields fields, s.fieldConflicts fields ++ [attributeKey]⟩ := by
  obtain ⟨list, there⟩ := Option.ne_none_iff_exists'.mp present
  rw [resolve, there, unreadable]

theorem resolve_of_attributeLists? {previous current remote : List AttributeValue}
    (lists : s.attributeLists? = some (previous, current, remote)) (fields : List String) :
    let resolution := resolveAttributes previous current remote remote
    s.resolve fields =
      ⟨putAttributes resolution.values (s.mergeFields fields),
        if resolution.conflict then s.fieldConflicts fields ++ [attributeKey]
        else s.fieldConflicts fields⟩ := by
  obtain ⟨list, there⟩ := Option.ne_none_iff_exists'.mp present
  rw [resolve, there, lists]

end Resolve

theorem get?_merged {path : String} (elsewhere : (segments path).head? ≠ some attributeKey)
    (s : Snapshot) (fields : List String) :
    (s.resolve fields).merged.get? path = (s.mergeFields fields).get? path := by
  unfold resolve
  dsimp only
  split
  · rfl
  · split
    · rfl
    · exact get?_putAttributes elsewhere _ _

theorem mem_conflicts {s : Snapshot} {fields : List String} {field : String}
    (mem : field ∈ s.fieldConflicts fields) : field ∈ (s.resolve fields).conflicts := by
  unfold resolve
  dsimp only
  split
  · exact mem
  · split
    · exact List.mem_append_left _ mem
    · split
      · exact List.mem_append_left _ mem
      · exact mem

/-- What stands at a path is found below what stands at a path above it. -/
theorem get?_of_append {path above : String} {rest : List String}
    (split : segments path = segments above ++ rest) (root : Json) :
    root.get? path = lookup (root.get? above) rest := by
  rw [get?_eq_lookup, split, lookup_append, ← get?_eq_lookup]

theorem equal_of_append {path above : String} {rest : List String}
    (split : segments path = segments above ++ rest) {a b : Json} (ha : a.Ordered)
    (same : deepEq (a.get? above) (b.get? above) = true) :
    deepEq (a.get? path) (b.get? path) = true := by
  rw [get?_of_append split, get?_of_append split]
  exact equal_lookup (ha.get? above) same rest

section Edited

variable {base current remote : Json} {field path : String} (hb : base.Ordered)
include hb

/-- A path that leads to an edited field is edited. -/
theorem not_prefix_of_edited
    (same : deepEq (base.get? path) (current.get? path) = true)
    (edited : deepEq (base.get? field) (current.get? field) = false) :
    ¬ segments path <+: segments field := by
  rintro ⟨rest, split⟩
  have unedited := equal_of_append split.symm hb same
  rw [edited] at unedited
  cases unedited

/-- Where the server changed something below a field that was safely edited, both sides made the
same edit. -/
theorem equal_below_safelyEdited (hc : current.Ordered)
    (safe : SafelyEdited (base.get? field) (current.get? field) (remote.get? field))
    {rest : List String} (split : segments path = segments field ++ rest)
    (changed : deepEq (base.get? path) (remote.get? path) = false) :
    deepEq (current.get? path) (remote.get? path) = true := by
  rcases safe.2 with loaded | agreed
  · have unchanged := equal_of_append split hb loaded
    rw [changed] at unchanged
    cases unchanged
  · exact equal_of_append split hc agreed

end Edited

/-- A change that only the server made survives the edit of a field. Above or at the path the edit
would be no edit; further down it brings what the server has there already. -/
theorem remote_applyTo {s : Snapshot} (h : s.Ordered) {field path : String} {merged : Json}
    (ordered : merged.Ordered) (spelled : ¬ Respelled (segments field) (segments path))
    (changed : deepEq (s.base.get? path) (s.remote.get? path) = false)
    (same : deepEq (s.base.get? path) (s.current.get? path) = true)
    (there : deepEq (merged.get? path) (s.remote.get? path) = true) :
    deepEq (((s.resolveField field).applyTo merged).get? path) (s.remote.get? path) = true := by
  by_cases safe : s.IsSafe field
  · have off := not_prefix_of_edited h.base same safe.1
    rw [applyTo_of_isSafe safe, get?_eq_lookup, some_set]
    rcases lookup_edit ordered.place (s.current.get? field) spelled off with
      kept | ⟨rest, split, brought⟩
    · rw [kept]
      exact there
    · rw [brought, ← get?_of_append split]
      exact equal_below_safelyEdited h.base h.current safe split changed
  · rw [applyTo_of_not_isSafe safe]
    exact there

/-- The local version of a field is not written where that of another belongs. -/
def Apart (s : Snapshot) (field path : String) (merged : Json) : Prop :=
  s.IsSafe field → ¬ Collide (segments field) (segments path) (some merged) (some s.current)

instance (s : Snapshot) (field path : String) (merged : Json) :
    Decidable (s.Apart field path merged) :=
  inferInstanceAs (Decidable (_ → _))

section Step

variable {s : Snapshot} {field path : String} {merged : Json} (ordered : merged.Ordered)
  (apart : s.Apart field path merged)
include ordered apart

/-- The edit of a field leaves a local version that was written already. -/
theorem current_applyTo (there : merged.get? path = s.current.get? path) :
    ((s.resolveField field).applyTo merged).get? path = s.current.get? path := by
  by_cases safe : s.IsSafe field
  · rw [applyTo_of_isSafe safe, get?_eq_lookup, some_set]
    exact lookup_edit_of_written ordered.place (apart safe) there
  · rw [applyTo_of_not_isSafe safe]
    exact there

/-- The edit of a field leaves room for the local version of another. -/
theorem takes_applyTo
    (room : takes (s.current.get? path) (segments path) (some merged) = true) :
    takes (s.current.get? path) (segments path) (some ((s.resolveField field).applyTo merged)) =
      true := by
  by_cases safe : s.IsSafe field
  · rw [applyTo_of_isSafe safe, some_set]
    exact takes_edit ordered.place (apart safe) room
  · rw [applyTo_of_not_isSafe safe]
    exact room

theorem grown_applyTo
    (grown : Grown (segments path) (some s.remote) (some s.current) (some merged)) :
    Grown (segments path) (some s.remote) (some s.current)
      (some ((s.resolveField field).applyTo merged)) := by
  by_cases safe : s.IsSafe field
  · rw [applyTo_of_isSafe safe, some_set]
    exact grown.edit ordered.place (apart safe)
  · rw [applyTo_of_not_isSafe safe]
    exact grown

end Step

/-- The safe edit of a field is there once it was written, when there is room for it. -/
theorem get?_applyTo_self {s : Snapshot} {field : String} (safe : s.IsSafe field) {merged : Json}
    (ordered : merged.Ordered)
    (room : takes (s.current.get? field) (segments field) (some merged) = true) :
    ((s.resolveField field).applyTo merged).get? field = s.current.get? field := by
  rw [applyTo_of_isSafe safe, get?_eq_lookup, some_set]
  exact lookup_edit_self ordered.place room

theorem remote_mergeFields {s : Snapshot} (h : s.Ordered) {fields : List String} {path : String}
    (spelled : ∀ field ∈ fields, ¬ Respelled (segments field) (segments path))
    (changed : deepEq (s.base.get? path) (s.remote.get? path) = false)
    (same : deepEq (s.base.get? path) (s.current.get? path) = true) :
    deepEq ((s.mergeFields fields).get? path) (s.remote.get? path) = true := by
  let Kept (merged : Json) : Prop :=
    merged.Ordered ∧ deepEq (merged.get? path) (s.remote.get? path) = true
  have start : Kept s.remote := ⟨h.remote, equal_at? h.remote (equal_refl h.remote) _⟩
  have kept : Kept (s.mergeFields fields) := by
    apply writeFields_induction (P := Kept) start
    intro field mem merged ⟨ordered, there⟩
    exact ⟨h.applyTo field ordered, remote_applyTo h ordered (spelled field mem) changed same there⟩
  exact kept.2

/-- Before the edit of a field is written there stays room for it, and afterwards it stays. Edits
that are apart in the server's version stay apart meanwhile. -/
theorem current_mergeFields {s : Snapshot} (h : s.Ordered) {fields : List String} {path : String}
    (apart : ∀ field ∈ fields, s.Apart field path s.remote) (listed : path ∈ fields)
    (safe : s.IsSafe path)
    (room : takes (s.current.get? path) (segments path) (some s.remote) = true) :
    (s.mergeFields fields).get? path = s.current.get? path := by
  let Growing (merged : Json) : Prop := merged.Ordered ∧
    Grown (segments path) (some s.remote) (some s.current) (some merged)
  have stays {merged : Json} (growing : Growing merged) {field : String} (mem : field ∈ fields) :
      s.Apart field path merged := fun safe collide =>
    apart field mem safe (growing.2.collide collide)
  have grows (field : String) (mem : field ∈ fields) (merged : Json) (growing : Growing merged) :
      Growing ((s.resolveField field).applyTo merged) :=
    ⟨h.applyTo field growing.1, grown_applyTo growing.1 (stays growing mem) growing.2⟩
  let Open (merged : Json) : Prop :=
    Growing merged ∧ takes (s.current.get? path) (segments path) (some merged) = true
  let Written (merged : Json) : Prop :=
    Growing merged ∧ merged.get? path = s.current.get? path
  obtain ⟨before, after, rfl⟩ := List.append_of_mem listed
  rw [mergeFields_eq_writeFields, writeFields, List.foldl_append, List.foldl_cons]
  have opened : Open (s.writeFields before s.remote) := by
    apply writeFields_induction (P := Open) ⟨⟨h.remote, .refl⟩, room⟩
    intro field mem merged ⟨growing, room⟩
    have listed := List.mem_append_left (path :: after) mem
    exact ⟨grows field listed merged growing,
      takes_applyTo growing.1 (stays growing listed) room⟩
  have written : Written ((s.resolveField path).applyTo (s.writeFields before s.remote)) :=
    ⟨grows path listed _ opened.1, get?_applyTo_self safe opened.1.1 opened.2⟩
  refine (writeFields_induction (P := Written) written ?_).2
  intro field mem merged ⟨growing, there⟩
  have listed := List.mem_append_right before (List.mem_cons_of_mem path mem)
  exact ⟨grows field listed merged growing, current_applyTo growing.1 (stays growing listed) there⟩

/-- A change that only the server made is never reverted: where base and remote differ and the
local version is the loaded one, the merged document has what the server has. Listed fields may
stand above, at, below or beside the path, and overlap. -/
theorem resolve_keeps_remote_change {s : Snapshot} (h : s.Ordered) {fields : List String}
    {path : String} (elsewhere : (segments path).head? ≠ some attributeKey)
    (spelled : ∀ field ∈ fields, ¬ Respelled (segments field) (segments path))
    (changed : deepEq (s.base.get? path) (s.remote.get? path) = false)
    (same : deepEq (s.base.get? path) (s.current.get? path) = true) :
    deepEq ((s.resolve fields).merged.get? path) (s.remote.get? path) = true := by
  rw [get?_merged elsewhere]
  exact remote_mergeFields h spelled changed same

/-- The title was edited and a phone number added while the server renamed the owner. -/
theorem owner_stays_renamed :
    let card (name title : String) (phone : List (String × Json)) : Json :=
      .obj [("owner", .obj (("name", .str name) :: phone)), ("title", .str title)]
    let s : Snapshot :=
      ⟨card "Ann" "draft" [], card "Ann" "final" [("phone", .str "1")], card "Bea" "draft" []⟩
    let merged := (s.resolve ["title", "owner.phone"]).merged
    s.Ordered ∧ deepEq (merged.get? "owner.name") (s.remote.get? "owner.name") = true := by
  intro card s merged
  have ordered : s.Ordered := by decide
  exact ⟨ordered, resolve_keeps_remote_change ordered (by decide) (by decide) (by decide)
    (by decide)⟩

/-- The local version of a field is in the merged document, or the field is named as a conflict. -/
def Keeps (s : Snapshot) (fields : List String) (field : String) : Prop :=
  field ∈ (s.resolve fields).conflicts ∨
    (s.resolve fields).merged.get? field = s.current.get? field

instance (s : Snapshot) (fields : List String) (field : String) :
    Decidable (s.Keeps fields field) :=
  inferInstanceAs (Decidable (_ ∨ _))

/-- A safe edit of a listed field, at or above the given one, finds room in the arrays of the
server's version. -/
def HasRoom (s : Snapshot) (fields : List String) (field : String) : Prop :=
  ∃ above ∈ fields, segments above <+: segments field ∧ s.IsSafe above ∧
    takes (s.current.get? above) (segments above) (some s.remote) = true

instance (s : Snapshot) (fields : List String) (field : String) :
    Decidable (s.HasRoom fields field) :=
  inferInstanceAs (Decidable (∃ above ∈ fields, _))

/-- A local edit of a listed field is not lost silently when a safe edit finds room and no other
safe edit is written in its place: there is no second field with the element of one of the server's
arrays that the field leads through, which spells the index differently and is another key of the
local version. -/
theorem resolve_keeps_edit {s : Snapshot} (h : s.Ordered) {fields : List String} {field : String}
    (listed : field ∈ fields) (elsewhere : (segments field).head? ≠ some attributeKey)
    (apart : ∀ other ∈ fields, s.Apart other field s.remote)
    (edited : deepEq (s.base.get? field) (s.current.get? field) = false)
    (room : s.IsSafe field → s.HasRoom fields field) : s.Keeps fields field := by
  rcases Change.conflict_or_isSafe edited (s.remote.get? field) with conflict | safe
  · left
    exact mem_conflicts (List.mem_filter.mpr ⟨listed, conflict⟩)
  · right
    obtain ⟨above, mem, ⟨rest, split⟩, safe, room⟩ := room (Change.isSafe_between.mp safe)
    have apart : ∀ other ∈ fields, s.Apart other above s.remote := by
      intro other mem safe collide
      exact apart other mem safe (split ▸ collide.append rest)
    rw [get?_merged elsewhere, get?_of_append split.symm,
      current_mergeFields h apart mem safe room, ← get?_of_append split.symm]

/-- An element was edited of a list to which the server appended one, and a key of an object beside
another key that would spell the same index of a list. -/
theorem element_keeps_edit :
    let list (items : List String) : Json := .arr (items.map Json.str)
    let codes (code : String) : Json := .obj [("0", .str code), ("00", .str "b")]
    let s : Snapshot := ⟨.obj [("codes", codes "a"), ("labels", list ["x"])],
      .obj [("codes", codes "c"), ("labels", list ["y"])],
      .obj [("codes", codes "a"), ("labels", list ["x", "z"])]⟩
    let fields := ["labels.0", "codes.0", "codes.00"]
    s.Ordered ∧ s.HasRoom fields "labels.0" ∧ s.HasRoom fields "codes.0" ∧
      s.Keeps fields "labels.0" ∧ s.Keeps fields "codes.0" := by
  intro list codes s fields
  have ordered : s.Ordered := by decide
  have room : s.HasRoom fields "labels.0" := by decide
  have room' : s.HasRoom fields "codes.0" := by decide
  exact ⟨ordered, room, room',
    resolve_keeps_edit ordered (by decide) (by decide) (by decide) (by decide) fun _ => room,
    resolve_keeps_edit ordered (by decide) (by decide) (by decide) (by decide) fun _ => room'⟩

/-- A listed edit that is lost silently. -/
def Loses (s : Snapshot) (fields : List String) (field : String) : Prop :=
  s.Ordered ∧ field ∈ fields ∧
    (∀ other ∈ fields, (segments other).head? ≠ some attributeKey) ∧
    deepEq (s.base.get? field) (s.current.get? field) = false ∧ ¬ s.Keeps fields field

/-- Edits are lost silently beyond the end of an array, when an element is removed, and when two
keys of the local version spell the index of one element. -/
theorem loses_edits_in_arrays :
    Loses ⟨.obj [("a", .arr [])], .obj [("a", .arr [.str "x"])], .obj [("a", .arr [])]⟩
        ["a.0"] "a.0" ∧
      Loses ⟨.obj [("a", .arr [.str "x"])], .obj [("a", .arr [])], .obj [("a", .arr [.str "x"])]⟩
        ["a.0"] "a.0" ∧
      Loses ⟨.obj [("a", .arr [.str "x"])],
          .obj [("a", .obj [("0", .str "y"), ("00", .str "z")])], .obj [("a", .arr [.str "x"])]⟩
        ["a.0", "a.00"] "a.0" := by
  refine ⟨?_, ?_, ?_⟩ <;> unfold Loses <;> decide

end Snapshot

end Writeback
