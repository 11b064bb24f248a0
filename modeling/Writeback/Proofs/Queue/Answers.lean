import Writeback.Proofs.Queue.Correlation
import Writeback.Proofs.Queue.Settlement

/-!
# Every save goes by the answer at its position

A save of a new object stands at one position of one request at most, and everything that is ever
reported of it is read off the answer to that request at that position, however many cycles the
answer is held. A save of an existing object stands in no request and ends with what its direct
save replied. No report is missing once nothing is left to do.
-/

namespace Writeback

namespace Ledger

/-- Request `m` of a bucket carries a save at position `i`. -/
def Carries (l : Ledger) (key : BucketKey) (m i : Nat) (save : Save) : Prop :=
  ∃ batch request, (l.posted key)[m]? = some (batch, request) ∧ batch[i]? = some save

end Ledger

namespace Queue

namespace Workload

variable {limit : Nat} {w : Workload} {save : Save}

theorem Reachable.joined_of_carries (h : Reachable limit w) {key : BucketKey} {m i : Nat}
    (carries : w.Carries key m i save) : save ∈ joinedIn key w.events := by
  obtain ⟨batch, request, sent, at_i⟩ := carries
  apply (h.posted_sublist key).subset
  rw [List.mem_flatten]
  exact ⟨batch, List.mem_map_of_mem (List.mem_of_getElem? sent), List.mem_of_getElem? at_i⟩

/-- A save that joined a bucket joined no other, and is no direct save. -/
theorem Reachable.only_bucket (h : Reachable limit w) {key : BucketKey}
    (joined : .joined key save ∈ w.events) :
    (∀ other, save ∈ joinedIn other w.events → other = key) ∧
      .queued (.update save) ∉ w.events := by
  have asked := Ledger.mem_asked_some.mpr joined
  constructor
  · intro other mem
    have one := h.eq_of_handle (mem_asked_of_mem_joinedIn mem) asked rfl
    exact Option.some.inj (Prod.mk.inj one).1
  · intro queued
    have one := h.eq_of_handle (Ledger.mem_asked_none.mpr queued) asked rfl
    exact absurd (Prod.mk.inj one).1 (by simp)

/-- A save is carried at one position of one request at most. -/
theorem Reachable.carries_iff (h : Reachable limit w) {key : BucketKey} {m i : Nat}
    (carries : w.Carries key m i save) {key' : BucketKey} {m' i' : Nat} :
    w.Carries key' m' i' save ↔ key' = key ∧ m' = m ∧ i' = i := by
  refine ⟨fun carries' => ?_, fun ⟨hk, hm, hi⟩ => hk ▸ hm ▸ hi ▸ carries⟩
  obtain rfl : key' = key :=
    (h.only_bucket (mem_joinedIn.mp (h.joined_of_carries carries))).1 key'
      (h.joined_of_carries carries')
  obtain ⟨batch, request, sent, at_i⟩ := carries
  obtain ⟨batch', request', sent', at_i'⟩ := carries'
  have nodup := (h.nodup_joinedIn key').sublist (h.posted_sublist key')
  refine ⟨rfl, position_unique nodup ?_ at_i' ?_ at_i⟩
  · rw [List.getElem?_map, sent']
    rfl
  · rw [List.getElem?_map, sent]
    rfl

theorem Reachable.queued_of_replied (h : Reachable limit w) {reply : SaveReply}
    (replied : .replied save reply ∈ w.events) : .queued (.update save) ∈ w.events := by
  have mem : save ∈ w.replied := Ledger.mem_replied.mpr ⟨reply, replied⟩
  rw [← Ledger.mem_updates, ← Multiset.mem_coe, ← h.replied_eq_updates]
  exact Multiset.mem_add.mpr (.inl (Multiset.mem_coe.mpr mem))

theorem Reachable.nodup_replied (h : Reachable limit w) : w.replied.Nodup := by
  have handles : (w.updates.map Save.handle).Sublist (List.range w.handles) := by
    rw [← h.handles_asked, Ledger.updates, List.map_map]
    exact List.filter_sublist.map _
  have updates : w.updates.Nodup := .of_map _ (List.nodup_range.sublist handles)
  rw [← Multiset.coe_nodup, ← h.replied_eq_updates] at updates
  exact Multiset.coe_nodup.mp (Multiset.nodup_add.mp updates).1

/-- A save that is cut short had joined the bucket. -/
theorem Reachable.joined_of_cut (h : Reachable limit w) {supply : Nat → Saveable} {key : BucketKey}
    (cut : CutShort supply w.events key save) : save ∈ joinedIn key w.events := by
  cases cut with
  | spoiled taken _ mem => exact h.inLine.mem_joined_of_taken (mem_takenIn.mpr taken) mem
  | aborted split _ _ _ held => exact h.joined_of_held split held
  | handedBack split _ _ _ at_q => exact h.joined_of_held split (List.mem_of_getElem? at_q)

/-- A save that joined a bucket goes by the answer to the request that carries it, or is cut
short. -/
theorem Accounted.of_joined {supply : Nat → Saveable} (h : Accounted supply w)
    (reachable : Reachable limit w) {key : BucketKey} (joined : .joined key save ∈ w.events) :
    reportsOf save w.events = [] ∨
      (∃ (m i : Nat) (batch : List Save) (request : Request) (answer : Answer),
        (w.posted key)[m]? = some (batch, request) ∧
        (w.answered key)[m]? = some (batch, request, answer) ∧ batch[i]? = some save ∧
        Settles (supply save.object) key.typeName save i answer (reportsOf save w.events)) ∨
      CutShort supply w.events key save ∧ CutReports supply save (reportsOf save w.events) := by
  obtain ⟨only, undirected⟩ := reachable.only_bucket joined
  rcases h.reports save with none | justified
  · exact .inl none
  · cases justified with
    | @answered other batch request answer i answered at_i settles =>
      obtain ⟨m, sent, at_m⟩ := reachable.posted_of_mem_answered answered
      have carries : w.Carries other m i save := ⟨batch, request, sent, at_i⟩
      obtain rfl : other = key := only other (reachable.joined_of_carries carries)
      exact .inr (.inl ⟨m, i, batch, request, answer, sent, at_m, at_i, settles⟩)
    | replied replied => exact absurd (reachable.queued_of_replied replied) undirected
    | @cut other cut cancelled =>
      obtain rfl : other = key := only other (reachable.joined_of_cut cut)
      exact .inr (.inr ⟨cut, cancelled⟩)

theorem Correlated.of_joined {supply : Nat → Saveable} (h : Correlated supply w)
    (reachable : Reachable limit w) {key : BucketKey} (joined : .joined key save ∈ w.events) :
    reportsOf save w.events = [] ∨
      ∃ (m i : Nat) (batch : List Save) (request : Request) (answer : Answer),
        (w.posted key)[m]? = some (batch, request) ∧
        (w.answered key)[m]? = some (batch, request, answer) ∧ batch[i]? = some save ∧
        Settles (supply save.object) key.typeName save i answer (reportsOf save w.events) :=
  (h.toAccounted.of_joined reachable joined).imp_right fun settled =>
    settled.resolve_right fun ⟨cut, _⟩ => h.uncut key save cut

/-- A direct save is in no request, and ends with what it replied. -/
theorem Accounted.of_queued {supply : Nat → Saveable} (h : Accounted supply w)
    (reachable : Reachable limit w) (queued : .queued (.update save) ∈ w.events) :
    (∀ key m i, ¬w.Carries key m i save) ∧
      (reportsOf save w.events = [] ∨ save ∈ w.replied ∧
        SettlesDirectly save (supply save.object).saveReply (reportsOf save w.events)) := by
  have unjoined : ∀ key, save ∉ joinedIn key w.events := fun key joined =>
    (reachable.only_bucket (mem_joinedIn.mp joined)).2 queued
  refine ⟨fun key m i carries => unjoined key (reachable.joined_of_carries carries), ?_⟩
  rcases h.reports save with none | justified
  · exact .inl none
  · cases justified with
    | answered answered at_i =>
      exact absurd (reachable.joined_of_answered answered (List.mem_of_getElem? at_i)) (unjoined _)
    | @replied reply replied settles =>
      obtain rfl : reply = (supply save.object).saveReply := h.replied save reply replied
      exact .inr ⟨Ledger.mem_replied.mpr ⟨_, replied⟩, settles⟩
    | cut cut => exact absurd (reachable.joined_of_cut cut) (unjoined _)

/-- When no job is under way, every save that was asked for is reported on. -/
theorem Reachable.reportsOf_ne_nil (h : Reachable limit w) (none : w.underway = 0)
    {key : Option BucketKey} (asked : (key, save) ∈ w.asked) : reportsOf save w.events ≠ [] := by
  have ended : save ∈ w.ended := by
    rw [← Multiset.mem_coe, h.ended_eq_asked none, Multiset.mem_coe]
    exact List.mem_map_of_mem asked
  obtain ⟨result, settled⟩ := Ledger.mem_ended.mp ended
  exact reportsOf_ne_nil_of_mem settled (by simp [Event.reportsOn])

theorem Reachable.exists_asked (h : Reachable limit w) {handle : Nat} (given : handle < w.handles) :
    ∃ save : Save, save.handle = handle ∧
      ((∃ key, .joined key save ∈ w.events) ∨ .queued (.update save) ∈ w.events) := by
  have mem := List.mem_range.mpr given
  rw [← h.handles_asked] at mem
  obtain ⟨⟨key, save⟩, asked, rfl⟩ := List.mem_map.mp mem
  refine ⟨save, rfl, ?_⟩
  cases key with
  | none => exact .inr (Ledger.mem_asked_none.mp asked)
  | some key => exact .inl ⟨key, Ledger.mem_asked_some.mp asked⟩

end Workload

theorem State.asked_enqueue (s : State) (object : Nat) :
    if (s.record object).isNew = true
    then .joined (.ofSaveable (s.saveable object)) ⟨object, s.handles⟩ ∈ (s.enqueue object).events
    else .queued (.update ⟨object, s.handles⟩) ∈ (s.enqueue object).events := by
  split
  · next new =>
    obtain ⟨queued, -, events⟩ := events_enqueue_of_new new
    simp [events]
  · next old => simp [events_enqueue_of_old old]

/-- In a run in which no serialization and no hook crashes and the transport answers, every save
goes by its own answer. Enqueueing a new object makes its save join the bucket of its type, and
enqueueing an existing one asks for a direct save; every handle is one of the two. What is reported
of a save that joined, until nothing is left to do perhaps nothing yet, is what the answer to the
only request that carries it says at its position, and its hook is called at most once. A direct
save is in no request, replies at most once, and ends as it replied: with what it returned, or
cancelled if it crashed. What a handle ended with is what is reported of its save. -/
theorem ReachableInAnyOrder.settles_by_position {setup : Setup} {s : State}
    (h : ReachableInAnyOrder setup s) (calm : CrashFree s.saveable s.events) :
    (∀ object, if (s.record object).isNew = true
      then .joined (.ofSaveable (s.saveable object)) ⟨object, s.handles⟩ ∈ (s.enqueue object).events
      else .queued (.update ⟨object, s.handles⟩) ∈ (s.enqueue object).events) ∧
    (∀ handle < s.handles, ∃ save : Save, save.handle = handle ∧
      ((∃ key, .joined key save ∈ s.events) ∨ .queued (.update save) ∈ s.events)) ∧
    (∀ key save, .joined key save ∈ s.events →
      key = .ofSaveable (s.saveable save.object) ∧
      (reportsOf save s.events = [] ∧ ¬s.Quiescent ∨
        ∃ (m i : Nat) (batch : List Save) (request : Request) (answer : Answer),
          (s.posted key)[m]? = some (batch, request) ∧
          (s.answered key)[m]? = some (batch, request, answer) ∧ batch[i]? = some save ∧
          (∀ key' m' i', s.Carries key' m' i' save ↔ key' = key ∧ m' = m ∧ i' = i) ∧
          Settles (s.saveable save.object) key.typeName save i answer (reportsOf save s.events))) ∧
    (∀ save, .queued (.update save) ∈ s.events →
      (∀ key m i, ¬s.Carries key m i save) ∧ s.replied.count save ≤ 1 ∧
      (reportsOf save s.events = [] ∧ ¬s.Quiescent ∨ save ∈ s.replied ∧
        SettlesDirectly save (s.saveable save.object).saveReply (reportsOf save s.events))) ∧
    ∀ save result, .settled save result ∈ s.events → s.result? save.handle = some result := by
  have reachable := h.workload
  have unreported {key : Option BucketKey} {save : Save} (asked : (key, save) ∈ s.asked)
      (none : reportsOf save s.events = []) : ¬s.Quiescent := fun quiescent =>
    reachable.reportsOf_ne_nil (h.of_quiescent quiescent).2.2.1 asked none
  have correlated := reachable.correlated (fun _ _ => rfl) calm
  refine ⟨s.asked_enqueue, fun handle given => reachable.exists_asked given, ?_, ?_, ?_⟩
  · intro key save joined
    refine ⟨((reachable.inLine.known key save (mem_joinedIn.mpr joined)).2).symm, ?_⟩
    rcases correlated.of_joined reachable joined with
      none | ⟨m, i, batch, request, answer, sent, answered, at_i, settles⟩
    · exact .inl ⟨none, unreported (Ledger.mem_asked_some.mpr joined) none⟩
    · exact .inr ⟨m, i, batch, request, answer, sent, answered, at_i, fun _ _ _ =>
        reachable.carries_iff ⟨batch, request, sent, at_i⟩, settles⟩
  · intro save queued
    obtain ⟨uncarried, reports⟩ := correlated.of_queued reachable queued
    refine ⟨uncarried, List.nodup_iff_count_le_one.mp reachable.nodup_replied save, ?_⟩
    exact reports.imp_left fun none => ⟨none, unreported (Ledger.mem_asked_none.mpr queued) none⟩
  · intro save result settled
    exact Ledger.result?_of_settled reachable.ended.1 settled

/-- A list whose second entry refuses its object: the save at that position, and no other, goes by
it. -/
theorem settles_by_position_of_refusal :
    let setup : Setup := {
      transport := .scripted { replies := [("controls", [.answer (.body (.arr
        [.arr [.int 201, .obj [("control", .null)]], .arr [.int 400, .null]]))])] } }
    let s := setup.after [⟨{}, true, 0, none⟩, ⟨{}, true, 0, none⟩] 6
    let key : BucketKey := .ofSaveable {}
    CrashFree s.saveable s.events ∧ ∃ (m i : Nat) (batch : List Save) (request : Request)
      (answer : Answer), (s.answered key)[m]? = some (batch, request, answer) ∧
        batch[i]? = some ⟨1, 1⟩ ∧
        Settles (s.saveable 1) key.typeName ⟨1, 1⟩ i answer
          [.settled ⟨1, 1⟩ (.error (.rejected (some (.arr [.int 400, .null]))))] := by
  intro setup s key
  have calm : CrashFree s.saveable s.events := by decide +kernel
  have joined : .joined key ⟨1, 1⟩ ∈ s.events := by decide +kernel
  have reports : reportsOf ⟨1, 1⟩ s.events =
      [.settled ⟨1, 1⟩ (.error (.rejected (some (.arr [.int 400, .null]))))] := by decide +kernel
  have reachable := (Setup.reachable_after _ _ _ : Reachable _ s).inAnyOrder
  have own := ((reachable.settles_by_position calm).2.2.1 key ⟨1, 1⟩ joined).2
  rw [reports] at own
  obtain ⟨none, -⟩ | ⟨m, i, batch, request, answer, -, answered, at_i, -, settles⟩ := own
  · exact absurd none (List.cons_ne_nil _ _)
  · exact ⟨calm, m, i, batch, request, answer, answered, at_i, settles⟩

end Queue

end Writeback
