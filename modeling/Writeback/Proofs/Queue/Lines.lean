import Writeback.Proofs.Queue.Wire

/-!
# The lines of the buckets

The journal and the buckets agree: the batches taken out of a bucket, one after the other, and
then its line are the saves that joined it. A batch is the front of the line as it stood when the
batch was taken, as long as the limit of the bucket allows.
-/

namespace Writeback

/-- The collection of the first object that joined a bucket. -/
def Ledger.pluralOf (l : Ledger) (key : BucketKey) : String :=
  ((joinedIn key l.events).head?.map fun save => (l.saveable save.object).model.plural).getD ""

theorem Ledger.pluralOf_congr {l l' : Ledger} {key : BucketKey} {first : Save}
    (before : (joinedIn key l.events).head? = some first)
    (after : (joinedIn key l'.events).head? = some first)
    (h : l'.saveable first.object = l.saveable first.object) :
    l'.pluralOf key = l.pluralOf key := by
  rw [pluralOf, pluralOf, before, after, Option.map_some, Option.map_some, h]

/-- An entry of a log that was added to is an old one or a new one. -/
theorem split_append {α : Type} {log news before after : List α} {e : α}
    (h : log ++ news = before ++ e :: after) :
    (∃ rest, log = before ++ e :: rest) ∨
      ∃ first, before = log ++ first ∧ news = first ++ e :: after := by
  rcases List.append_eq_append_iff.mp h with ⟨first, hb, hn⟩ | ⟨rest, he, ha⟩
  · exact .inr ⟨first, hb, hn⟩
  · rcases List.cons_eq_append_iff.mp ha with ⟨rfl, hn⟩ | ⟨rest, rfl, -⟩
    · exact .inr ⟨[], by simpa using he.symm, hn⟩
    · exact .inl ⟨rest, he⟩

section Readings

variable {events news : List Event} {key : BucketKey}

theorem joinedIn_append :
    joinedIn key (events ++ news) = joinedIn key events ++ joinedIn key news :=
  List.filterMap_append

theorem takenIn_append : takenIn key (events ++ news) = takenIn key events ++ takenIn key news :=
  List.filterMap_append

theorem Event.readings_of_silent {e : Event} (silent : e.isWire = false) (key : BucketKey) :
    e.joined? key = none ∧ e.taken? key = none ∧ e.posted? key = none ∧
      e.answered? key = none := by
  cases e <;> simp_all [isWire, joined?, taken?, posted?, answered?]

theorem joinedIn_of_silent (silent : ∀ e ∈ news, e.isWire = false) : joinedIn key news = [] :=
  List.filterMap_eq_nil_iff.mpr fun e he => (Event.readings_of_silent (silent e he) key).1

theorem takenIn_of_silent (silent : ∀ e ∈ news, e.isWire = false) : takenIn key news = [] :=
  List.filterMap_eq_nil_iff.mpr fun e he => (Event.readings_of_silent (silent e he) key).2.1

theorem pendingIn_append_of_silent (silent : ∀ e ∈ news, e.isWire = false) :
    pendingIn key (events ++ news) = pendingIn key events := by
  rw [pendingIn, joinedIn_append, takenIn_append, joinedIn_of_silent silent,
    takenIn_of_silent silent, List.append_nil, List.append_nil, pendingIn]

end Readings

namespace Queue.Workload

variable {limit : Nat} {w w' : Workload} {key : BucketKey}

/-- The journal and the lines of the buckets agree. -/
structure InLine (w : Workload) : Prop where
  known : ∀ key, ∀ save ∈ joinedIn key w.events,
    save.object < w.records.length ∧ w.keyOf save.object = key
  line : ∀ b ∈ w.lines, (takenIn b.key w.events).flatten ++ b.pending = joinedIn b.key w.events
  plural : ∀ b ∈ w.lines, joinedIn b.key w.events ≠ [] ∧ w.pluralOf b.key = b.plural
  absent : ∀ key ∉ w.lines.map Bucket.key,
    joinedIn key w.events = [] ∧ takenIn key w.events = []

/-- What the journal says of a bucket is its line and its collection. -/
def Recorded (w : Workload) (b : Bucket) : Prop :=
  (takenIn b.key w.events).flatten ++ b.pending = joinedIn b.key w.events ∧
    joinedIn b.key w.events ≠ [] ∧ w.pluralOf b.key = b.plural

namespace InLine

theorem of_recorded
    (known : ∀ key, ∀ save ∈ joinedIn key w.events,
      save.object < w.records.length ∧ w.keyOf save.object = key)
    (recorded : ∀ b ∈ w.lines, w.Recorded b)
    (absent : ∀ key ∉ w.lines.map Bucket.key,
      joinedIn key w.events = [] ∧ takenIn key w.events = []) : InLine w :=
  ⟨known, fun b hb => (recorded b hb).1, fun b hb => (recorded b hb).2, absent⟩

theorem pluralOf_eq (h : InLine w)
    (kept : w.Keeps w'.toLedger)
    (grown : joinedIn key w.events <+: joinedIn key w'.events)
    (some : joinedIn key w.events ≠ []) : w'.pluralOf key = w.pluralOf key := by
  obtain ⟨first, rest, joined⟩ := List.exists_cons_of_ne_nil some
  obtain ⟨more, grown⟩ := grown
  have mem : first ∈ joinedIn key w.events := by simp [joined]
  exact Ledger.pluralOf_congr (by rw [joined]; rfl) (by rw [← grown, joined]; rfl)
    (kept.saveable _ (h.known key first mem).1)

theorem known_of_keeps (h : InLine w) (kept : w.Keeps w'.toLedger)
    {save : Save} (mem : save ∈ joinedIn key w.events) :
    save.object < w'.records.length ∧ w'.keyOf save.object = key := by
  obtain ⟨known, same⟩ := h.known key save mem
  refine ⟨known.trans_le kept.length, ?_⟩
  rw [keyOf, kept.saveable _ known]
  exact same

/-- A bucket that a step is not about. -/
theorem recorded_of_same (h : InLine w) (kept : w.Keeps w'.toLedger) {b : Bucket}
    (hb : b ∈ w.lines) (joined : joinedIn b.key w'.events = joinedIn b.key w.events)
    (taken : takenIn b.key w'.events = takenIn b.key w.events) : w'.Recorded b := by
  obtain ⟨some, plural⟩ := h.plural b hb
  have grown : joinedIn b.key w.events <+: joinedIn b.key w'.events := joined ▸ List.prefix_rfl
  rw [Recorded, joined, taken]
  exact ⟨h.line b hb, some, (h.pluralOf_eq kept grown some).trans plural⟩

/-- A step that nothing joins and that takes nothing. -/
theorem of_same (h : InLine w) (kept : w.Keeps w'.toLedger)
    (joined : ∀ key, joinedIn key w'.events = joinedIn key w.events)
    (taken : ∀ key, takenIn key w'.events = takenIn key w.events) (lines : w'.lines = w.lines) :
    InLine w' := by
  apply of_recorded
  · intro key save mem
    exact h.known_of_keeps kept (joined key ▸ mem)
  · intro b hb
    exact h.recorded_of_same kept (lines ▸ hb) (joined b.key) (taken b.key)
  · intro key fresh
    rw [joined, taken]
    exact h.absent key (lines ▸ fresh)

/-- The bucket that a batch is taken from. -/
theorem recorded_of_taken (h : InLine w) (kept : w.Keeps w'.toLedger) {line : Bucket}
    (there : line ∈ w.lines)
    (joined : joinedIn line.key w'.events = joinedIn line.key w.events)
    (taken : takenIn line.key w'.events = takenIn line.key w.events ++ [line.nextBatch limit]) :
    w'.Recorded (line.afterBatch limit) := by
  obtain ⟨some, plural⟩ := h.plural line there
  have grown : joinedIn line.key w.events <+: joinedIn line.key w'.events :=
    joined ▸ List.prefix_rfl
  refine ⟨?_, joined ▸ some, (h.pluralOf_eq kept grown some).trans plural⟩
  change (takenIn line.key w'.events).flatten ++ _ = joinedIn line.key w'.events
  rw [taken, joined, ← h.line line there, List.flatten_append, List.flatten_singleton,
    List.append_assoc, Bucket.nextBatch, Bucket.afterBatch, List.take_append_drop]

theorem of_taken (h : InLine w) (nodup : (w.lines.map Bucket.key).Nodup)
    (kept : w.Keeps w'.toLedger)
    {line : Bucket} {others : Multiset Bucket}
    (events : w'.events = w.events ++ [.taken line.key (line.nextBatch limit)])
    (bucket : w.lines = line ::ₘ others) (lines : w'.lines = line.afterBatch limit ::ₘ others) :
    InLine w' := by
  have joined (key : BucketKey) : joinedIn key w'.events = joinedIn key w.events := by
    simp [events, joinedIn, Event.joined?]
  have keys : w'.lines.map Bucket.key = w.lines.map Bucket.key := by
    rw [lines, bucket, Multiset.map_cons, Multiset.map_cons]
    rfl
  rw [bucket, Multiset.map_cons, Multiset.nodup_cons] at nodup
  have taken_other (key : BucketKey) (ne : key ≠ line.key) :
      takenIn key w'.events = takenIn key w.events := by
    simp [events, takenIn, Event.taken?, ne.symm]
  apply of_recorded
  · intro key save mem
    exact h.known_of_keeps kept (joined key ▸ mem)
  · intro b hb
    rw [lines] at hb
    rcases Multiset.mem_cons.mp hb with rfl | hb
    · apply h.recorded_of_taken kept (by simp [bucket]) (joined line.key)
      simp [events, takenIn, Event.taken?]
    · have ne : b.key ≠ line.key := fun same => nodup.1 (same ▸ Multiset.mem_map_of_mem _ hb)
      exact h.recorded_of_same kept (by simp [bucket, hb]) (joined b.key) (taken_other b.key ne)
  · intro key fresh
    rw [keys] at fresh
    have ne : key ≠ line.key := fun same => fresh (by simp [bucket, same])
    rw [joined, taken_other key ne]
    exact h.absent key fresh

/-- The bucket that a save joins, which may be new. -/
theorem recorded_of_joined (h : InLine w) (kept : w.Keeps w'.toLedger) {object : Nat}
    {plural : String} {before : List Save} (known : object < w.records.length)
    (bucket : ⟨w.keyOf object, plural, before, [], false⟩ ∈ w.lines ∨
      before = [] ∧ plural = (w.saveable object).model.plural ∧
        w.keyOf object ∉ w.lines.map Bucket.key)
    (joined : joinedIn (w.keyOf object) w'.events =
      joinedIn (w.keyOf object) w.events ++ [w.nextSave object])
    (taken : takenIn (w.keyOf object) w'.events = takenIn (w.keyOf object) w.events) :
    w'.Recorded ⟨w.keyOf object, plural, before ++ [w.nextSave object], [], false⟩ := by
  have line : (takenIn (w.keyOf object) w.events).flatten ++ before =
      joinedIn (w.keyOf object) w.events := by
    rcases bucket with there | ⟨rfl, -, new⟩
    · exact h.line _ there
    · simp [h.absent _ new]
  have collection : w'.pluralOf (w.keyOf object) = plural := by
    rcases bucket with there | ⟨-, rfl, new⟩
    · obtain ⟨some, first⟩ := h.plural _ there
      have grown := joined ▸ List.prefix_append _ [w.nextSave object]
      exact (h.pluralOf_eq kept grown some).trans first
    · simp [Ledger.pluralOf, joined, h.absent _ new, nextSave, kept.saveable object known]
  refine ⟨?_, ?_, collection⟩
  · change (takenIn (w.keyOf object) w'.events).flatten ++ (before ++ [w.nextSave object]) =
      joinedIn (w.keyOf object) w'.events
    rw [taken, joined, ← List.append_assoc, line]
  · simp [joined]

theorem of_joined (h : InLine w) (nodup : (w.lines.map Bucket.key).Nodup)
    (kept : w.Keeps w'.toLedger)
    {object : Nat} {plural : String} {before : List Save} {others : Multiset Bucket}
    (known : object < w.records.length)
    (events : w'.events = w.events ++ [.joined (w.keyOf object) (w.nextSave object)])
    (lines : w'.lines =
      ⟨w.keyOf object, plural, before ++ [w.nextSave object], [], false⟩ ::ₘ others)
    (bucket : w.lines = ⟨w.keyOf object, plural, before, [], false⟩ ::ₘ others ∨
      before = [] ∧ plural = (w.saveable object).model.plural ∧
        w.keyOf object ∉ w.lines.map Bucket.key ∧ w.lines = others) : InLine w' := by
  have joined_here : joinedIn (w.keyOf object) w'.events =
      joinedIn (w.keyOf object) w.events ++ [w.nextSave object] := by
    simp [events, joinedIn, Event.joined?]
  have joined_other (key : BucketKey) (ne : key ≠ w.keyOf object) :
      joinedIn key w'.events = joinedIn key w.events := by
    simp [events, joinedIn, Event.joined?, ne.symm]
  have taken (key : BucketKey) : takenIn key w'.events = takenIn key w.events := by
    simp [events, takenIn, Event.taken?]
  have fresh : w.keyOf object ∉ others.map Bucket.key := by
    rcases bucket with there | ⟨-, -, fresh, rfl⟩
    · rw [there, Multiset.map_cons, Multiset.nodup_cons] at nodup
      exact nodup.1
    · exact fresh
  have old (b : Bucket) (hb : b ∈ others) : b ∈ w.lines := by
    rcases bucket with there | ⟨-, -, -, rfl⟩
    · simp [there, hb]
    · exact hb
  have other_key (b : Bucket) (hb : b ∈ others) : b.key ≠ w.keyOf object :=
    fun same => fresh (same ▸ Multiset.mem_map_of_mem _ hb)
  apply of_recorded
  · intro key save mem
    by_cases here : key = w.keyOf object
    · subst here
      rw [joined_here] at mem
      rcases List.mem_append.mp mem with mem | mem
      · exact h.known_of_keeps kept mem
      · rw [List.mem_singleton.mp mem, nextSave, keyOf, kept.saveable object known]
        exact ⟨known.trans_le kept.length, rfl⟩
    · exact h.known_of_keeps kept (joined_other key here ▸ mem)
  · intro b hb
    rw [lines] at hb
    rcases Multiset.mem_cons.mp hb with rfl | hb
    · refine h.recorded_of_joined kept known ?_ joined_here (taken _)
      rcases bucket with there | ⟨none, first, new, -⟩
      · exact .inl (by simp [there])
      · exact .inr ⟨none, first, new⟩
    · exact h.recorded_of_same kept (old b hb) (joined_other b.key (other_key b hb)) (taken b.key)
  · intro key absent
    rw [lines, Multiset.map_cons, Multiset.mem_cons, not_or] at absent
    have new : key ∉ w.lines.map Bucket.key := by
      rcases bucket with there | ⟨-, -, -, rfl⟩
      · rw [there, Multiset.map_cons, Multiset.mem_cons, not_or]
        exact absent
      · exact absent.2
    rw [joined_other key absent.1, taken]
    exact h.absent key new

end InLine

theorem Tokens.nodup_lines (h : Tokens w) : (w.lines.map Bucket.key).Nodup := by
  rw [lines, Multiset.map_map]
  exact h.keys

theorem Step.inLine (step : Step limit w w') (tokens : Tokens w) (h : InLine w) : InLine w' := by
  have kept := step.keeps
  cases step.noticed tokens with
  | silent news events silent lines =>
    refine h.of_same kept (fun key => ?_) (fun key => ?_) lines
    · rw [events, joinedIn_append, joinedIn_of_silent silent, List.append_nil]
    · rw [events, takenIn_append, takenIn_of_silent silent, List.append_nil]
  | joined object plural before others known events lines bucket =>
    exact h.of_joined tokens.nodup_lines kept known events lines bucket
  | taken line others _ events bucket lines =>
    exact h.of_taken tokens.nodup_lines kept events bucket lines
  | posted cycle events lines =>
    exact h.of_same kept (by simp [events, joinedIn, Event.joined?])
      (by simp [events, takenIn, Event.taken?]) lines
  | answered cycle answer events lines =>
    exact h.of_same kept (by simp [events, joinedIn, Event.joined?])
      (by simp [events, takenIn, Event.taken?]) lines

theorem Reachable.inLine (h : Reachable limit w) : InLine w := by
  induction h with
  | initial => exact ⟨by simp [joinedIn, Ledger.events], by simp [lines], by simp [lines],
      by simp [joinedIn, takenIn, Ledger.events]⟩
  | step before step ih => exact step.inLine before.tokens ih

/-- A batch is taken by a cycle that starts. If no request can be made of it, the cycle is cut
short. -/
theorem Step.taken_cases (step : Step limit w w') (key : BucketKey) :
    takenIn key w'.events = takenIn key w.events ∨
      ∃ batch, .waiting (.cycle key) ∈ w.underway ∧ w'.events = w.events ++ [.taken key batch] ∧
        (w.batchBody? key batch = none → .failing key batch ∈ w'.underway) := by
  have silently {news : List Event} (events : w'.events = w.events ++ news)
      (silent : ∀ e ∈ news, e.isWire = false) :
      takenIn key w'.events = takenIn key w.events := by
    rw [events, takenIn_append, takenIn_of_silent silent, List.append_nil]
  cases step with
  | remark event remark =>
    exact .inl (silently (Ledger.events_note _ _) (by simp [Event.isWire_of_isRemark remark]))
  | ask | finish | comeBack =>
    exact .inl (silently (Ledger.events_note _ _) (by simp [Event.isWire]))
  | joinFirst | joinIdle | joinBusy | post | answer => simp [takenIn, Event.taken?]
  | take b body timer hu _ _ made =>
    by_cases mine : b.key = key
    · subst mine
      exact .inr ⟨_, by simp [hu], Ledger.events_note _ _, by simp [made]⟩
    · simp [takenIn, Event.taken?, mine]
  | spoil b hu =>
    by_cases mine : b.key = key
    · subst mine
      exact .inr ⟨_, by simp [hu], Ledger.events_note _ _, by simp⟩
    · simp [takenIn, Event.taken?, mine]
  | refuse | defer | abortNext | abortLast =>
    exact .inl (silently (Ledger.events_settleAll _ _ _) isWire_settled)
  | closeLast b response =>
    obtain ⟨reports, reported, -⟩ := Ledger.reported_redistribute b.key.typeName
      (b.held ++ response.toList) w.toLedger
    exact .inl (silently reported.events
      fun e he => Event.isWire_of_isReport (reported.isReport e he))
  | _ => exact .inl rfl

/-- While no cycle of a bucket is about to start, nothing is taken out of the bucket. -/
theorem Step.takenIn_eq (step : Step limit w w') (none : .waiting (.cycle key) ∉ w.underway) :
    takenIn key w'.events = takenIn key w.events :=
  (step.taken_cases key).resolve_right fun ⟨_, waiting, _⟩ => none waiting

theorem InLine.taken_prefix (h : InLine w) (key : BucketKey) :
    (takenIn key w.events).flatten <+: joinedIn key w.events := by
  by_cases there : key ∈ w.lines.map Bucket.key
  · obtain ⟨b, hb, rfl⟩ := Multiset.mem_map.mp there
    exact ⟨b.pending, h.line b hb⟩
  · rw [(h.absent key there).2]
    exact List.nil_prefix

/-- Where nothing is pending, all that joined a bucket was taken. -/
theorem InLine.flatten_takenIn (h : InLine w) {key : BucketKey}
    (empty : ∀ b ∈ w.buckets, b.key = key → b.pending = []) :
    (takenIn key w.events).flatten = joinedIn key w.events := by
  by_cases there : key ∈ w.lines.map Bucket.key
  · obtain ⟨line, hl, rfl⟩ := Multiset.mem_map.mp there
    obtain ⟨b, hb, rfl⟩ := Multiset.mem_map.mp hl
    have all := h.line b.line hl
    have none : b.line.pending = [] := empty b hb rfl
    rwa [none, List.append_nil] at all
  · obtain ⟨joined, taken⟩ := h.absent key there
    rw [joined, taken, List.flatten_nil]

theorem InLine.mem_joined_of_taken (h : InLine w) {batch : List Save} {save : Save}
    (hb : batch ∈ takenIn key w.events) (hs : save ∈ batch) : save ∈ joinedIn key w.events :=
  (h.taken_prefix key).subset (List.mem_flatten.mpr ⟨batch, hb, hs⟩)

/-- A batch is the front of the line as it stands when the batch is taken. -/
def TakenInTurn (limit : Nat) (events : List Event) : Prop :=
  ∀ before key batch after, events = before ++ .taken key batch :: after →
    batch ≠ [] ∧ batch <+: pendingIn key before ∧
      batch.length = if key.background then (pendingIn key before).length
        else min limit (pendingIn key before).length

theorem TakenInTurn.append {events news : List Event} (h : TakenInTurn limit events)
    (nothing : ∀ key batch, .taken key batch ∉ news) : TakenInTurn limit (events ++ news) := by
  intro before key batch after split
  rcases split_append split with ⟨rest, old⟩ | ⟨first, -, new⟩
  · exact h before key batch rest old
  · exact absurd (by simp [new]) (nothing key batch)

theorem Step.takenInTurn (step : Step limit w w') (pos : 0 < limit) (tokens : Tokens w)
    (inLine : InLine w) (h : TakenInTurn limit w.events) : TakenInTurn limit w'.events := by
  cases step.noticed tokens with
  | silent news events silent =>
    rw [events]
    exact h.append fun key batch mem => by simpa [Event.isWire] using silent _ mem
  | joined object plural before others _ events =>
    rw [events]
    exact h.append (by simp)
  | posted cycle events =>
    rw [events]
    exact h.append (by simp)
  | answered cycle answer events =>
    rw [events]
    exact h.append (by simp)
  | taken line others filled events bucket =>
    rw [events]
    intro before key batch after split
    rcases split_append split with ⟨rest, old⟩ | ⟨first, rfl, new⟩
    · exact h before key batch rest old
    -- What is pending in the journal is what is pending in the bucket.
    · obtain ⟨rfl, rfl, rfl, rfl⟩ : first = [] ∧ key = line.key ∧
          batch = line.nextBatch limit ∧ after = [] := by
        cases first <;> simp_all
      have pending : pendingIn line.key w.events = line.pending := by
        rw [pendingIn, ← inLine.line line (by simp [bucket]), List.drop_left]
      have length : 0 < line.pending.length := List.length_pos_iff.mpr filled
      rw [List.append_nil, pending, Bucket.nextBatch, Bucket.batchSize]
      refine ⟨?_, List.take_prefix _ _, ?_⟩
      · rw [← List.length_pos_iff, List.length_take]
        split <;> omega
      · rw [List.length_take]
        split <;> omega

theorem Reachable.takenInTurn (h : Reachable limit w) (pos : 0 < limit) :
    TakenInTurn limit w.events := by
  induction h with
  | initial =>
    intro before key batch after split
    simp [Ledger.events] at split
  | step before step ih => exact step.takenInTurn pos before.tokens before.inLine ih

end Queue.Workload

end Writeback
