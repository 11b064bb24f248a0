import Writeback.Proofs.Queue.Creates
import Writeback.Proofs.Queue.Echoes
import Writeback.Proofs.Queue.Outstanding
import Writeback.Proofs.Queue.Spacing

/-!
# Objects of one bucket go out in chunks

Objects of one bucket that are enqueued before a drain runs stand in the bucket's line together, so
the batches taken from then on are the consecutive chunks of the line. Each chunk makes one request,
and no other bucket takes or sends anything meanwhile.
-/

namespace Writeback

section Chunks

variable {α β : Type} {size i k : Nat} {l : List α}

/-- The consecutive parts of a list, all of one size but for the last, which may be shorter. -/
def chunks (size : Nat) (l : List α) : List (List α) :=
  (List.range ((l.length + size - 1) / size)).map fun i => (l.drop (i * size)).take size

@[simp] theorem length_chunks (size : Nat) (l : List α) :
    (chunks size l).length = (l.length + size - 1) / size := by
  simp [chunks]

theorem lt_length_chunks_iff (pos : 0 < size) :
    i < (chunks size l).length ↔ i * size < l.length := by
  rw [length_chunks, Nat.lt_iff_add_one_le, Nat.le_div_iff_mul_le pos, Nat.add_one_mul]
  omega

theorem getElem?_chunks (pos : 0 < size) (lt : i * size < l.length) :
    (chunks size l)[i]? = some ((l.drop (i * size)).take size) := by
  have inside := (lt_length_chunks_iff pos).mpr lt
  rw [length_chunks] at inside
  rw [chunks, List.getElem?_map, List.getElem?_range inside, Option.map_some]

/-- So many chunks in front are the front of the list. -/
theorem flatten_take_chunks (le : k ≤ (chunks size l).length) :
    ((chunks size l).take k).flatten = l.take (k * size) := by
  rw [length_chunks] at le
  rw [chunks, ← List.map_take, List.take_range, Nat.min_eq_left le]
  clear le
  induction k with
  | zero => simp
  | succ k ih => rw [List.range_succ, List.map_append, List.flatten_append, ih, Nat.succ_mul,
      List.take_add, List.map_singleton, List.flatten_singleton]

theorem flatten_chunks (pos : 0 < size) : (chunks size l).flatten = l := by
  have all := flatten_take_chunks (Nat.le_refl (chunks size l).length)
  rw [List.take_length] at all
  refine all.trans (List.take_of_length_le ?_)
  by_contra short
  exact Nat.lt_irrefl _ ((lt_length_chunks_iff (l := l) pos).mpr (by omega))

theorem map_chunks (f : α → β) : chunks size (l.map f) = (chunks size l).map (List.map f) := by
  simp [chunks, Function.comp_def]

/-- All chunks are full but for the last, which has the rest. -/
theorem length_of_getElem?_chunks (pos : 0 < size) {chunk : List α}
    (at_i : (chunks size l)[i]? = some chunk) :
    chunk.length = if i + 1 < (chunks size l).length then size
      else l.length - size * ((chunks size l).length - 1) := by
  have inside := (List.getElem?_eq_some_iff.mp at_i).1
  have lt := (lt_length_chunks_iff pos).mp inside
  rw [getElem?_chunks pos lt] at at_i
  obtain rfl := Option.some.inj at_i
  rw [List.length_take, List.length_drop]
  split
  · next more =>
    have full := (lt_length_chunks_iff pos).mp more
    rw [Nat.add_one_mul] at full
    omega
  · next last =>
    have all : ¬(i + 1) * size < l.length := fun more => last ((lt_length_chunks_iff pos).mpr more)
    have count : (chunks size l).length - 1 = i := by omega
    rw [Nat.add_one_mul] at all
    rw [count, Nat.mul_comm size]
    omega

theorem chunks_of_length_le (some : l ≠ []) (le : l.length ≤ size) : chunks size l = [l] := by
  have pos : 0 < l.length := List.length_pos_of_ne_nil some
  have one : (l.length + size - 1) / size = 1 := by
    rw [Nat.div_eq_iff (by omega)]
    omega
  simp [chunks, one, List.take_of_length_le le]

/-- Whoever has taken the chunks in front and takes as many elements more takes the next chunk. -/
theorem take_chunks_succ (pos : 0 < size) (lt : k * size < l.length) :
    (chunks size l).take (k + 1) = (chunks size l).take k ++ [(l.drop (k * size)).take size] := by
  rw [List.take_add_one, getElem?_chunks pos lt, Option.toList_some]

/-- The chunks in front are all of them once they have the whole list. -/
theorem eq_chunks_of_flatten (pos : 0 < size) {front : List (List α)}
    (h : front <+: chunks size l) (all : front.flatten = l) : front = chunks size l := by
  have le := h.length_le
  have here := List.prefix_iff_eq_take.mp h
  rw [here, flatten_take_chunks le] at all
  rw [here, List.take_of_length_le]
  by_contra short
  have lt := (lt_length_chunks_iff pos).mp (Nat.lt_of_not_le short)
  have short := congrArg List.length all
  rw [List.length_take] at short
  omega

end Chunks

/-- The request that creates objects with these bodies. -/
def BucketKey.request (key : BucketKey) (plural : String) (bodies : List Json) : Request :=
  ⟨plural, key.background, bodies.map fun body => .obj [(key.typeName, body)]⟩

section Serializes

variable {l : Ledger} {key : BucketKey} {body : Nat → Json} {batch : List Save}

theorem Ledger.batchBody?_of_serializes
    (serializes : ∀ save ∈ batch, (l.saveable save.object).body = some (body save.object)) :
    l.batchBody? key batch =
      some (batch.map fun save => .obj [(key.typeName, body save.object)]) := by
  induction batch with
  | nil => rfl
  | cons save batch ih =>
    have rest := ih fun other mem => serializes other (List.mem_cons_of_mem _ mem)
    rw [batchBody?] at rest ⊢
    rw [List.mapM_cons, serializes save List.mem_cons_self, rest]
    rfl

/-- A batch whose objects serialize makes a request of their bodies. -/
theorem Ledger.request?_of_serializes {plural : String}
    (serializes : ∀ save ∈ batch, (l.saveable save.object).body = some (body save.object)) :
    l.request? key plural batch =
      some (batch, key.request plural ((batch.map Save.object).map body)) := by
  rw [request?, batchBody?_of_serializes serializes, BucketKey.request, List.map_map, List.map_map]
  rfl

end Serializes

namespace Queue

/-- A task that waits for the end of a quiet period. -/
def Task.isTimer : Task → Bool
  | .countdown _ | .due _ => true
  | .flush _ | .admitted _ | .job _ _ => false

/-- Objects of one bucket are enqueued in this order, with no drain meanwhile, and nothing else. -/
inductive Collects (setup : Setup) (key : BucketKey) (r : State) : List Nat → State → Prop where
  | nothing : Collects setup key r [] r
  | passes {objects : List Nat} {s t : State} : Collects setup key r objects s →
      Unattended setup s t → t.drains = s.drains → Collects setup key r objects t
  | enqueues {objects : List Nat} {s : State} (object : Nat) : Collects setup key r objects s →
      object < s.records.length → (s.record object).isNew = true →
      .ofSaveable (s.saveable object) = key →
      Collects setup key r (objects ++ [object]) (s.enqueue object)

/-- Enqueueing makes no object, and takes one handle. -/
theorem State.enqueue_counts (s : State) (object : Nat) :
    (s.enqueue object).records = s.records ∧ (s.enqueue object).handles = s.handles + 1 := by
  have ensured (u : State) (b : Bucket) :
      (u.ensureBucket b).records = u.records ∧ (u.ensureBucket b).handles = u.handles := by
    unfold ensureBucket
    split <;> exact ⟨rfl, rfl⟩
  unfold State.enqueue
  dsimp only
  split
  · split
    · exact ensured _ _
    · exact ensured _ _
  · exact ⟨rfl, rfl⟩

/-- Objects that are created and enqueued at once, one after the other. -/
theorem Collects.submit {setup : Setup} {key : BucketKey} {r s : State} {objects : List Nat}
    (collects : Collects setup key r objects s) (records : List Record)
    (new : ∀ record ∈ records, record.isNew = true ∧ .ofSaveable record.saveable = key) :
    Collects setup key r (objects ++ List.range' s.records.length records.length)
      (s.submit records) := by
  induction records generalizing s objects with
  | nil => simpa [State.submit] using collects
  | cons record records ih =>
    obtain ⟨isNew, same⟩ := new record List.mem_cons_self
    have found : (s.addRecord record).record s.records.length = record := by
      simp [Ledger.record, State.addRecord, State.onLedger]
    have length : (s.addRecord record).records.length = s.records.length + 1 := by
      simp [State.addRecord, State.onLedger]
    have next : Collects setup key r (objects ++ [s.records.length])
        ((s.addRecord record).enqueue s.records.length) :=
      .enqueues _ (.passes collects (.create s record) rfl) (by omega) (found.symm ▸ isNew)
        (by rw [Ledger.saveable, found, same])
    have all := ih next fun other mem => new other (List.mem_cons_of_mem _ mem)
    rwa [(State.enqueue_counts _ _).1, length, List.append_assoc, List.singleton_append,
      ← List.range'_succ] at all

/-- No job is under way, nor with a drain. -/
structure State.Dormant (s : State) : Prop where
  waiting : s.waiting = []
  timers : ∀ task ∈ s.tasks, task.isTimer = true

section Collecting

open State

variable {setup : Setup} {key : BucketKey} {r s t : State} {objects : List Nat}

namespace State

theorem Dormant.of_quiescent (quiescent : s.Quiescent) (waiting : s.waiting = []) : s.Dormant :=
  ⟨waiting, by simp [quiescent.tasks]⟩

theorem Dormant.of_tasks (h : s.Dormant) (waiting : t.waiting = s.waiting)
    (tasks : ∀ task ∈ t.tasks, task ∈ s.tasks ∨ task.isTimer = true) : t.Dormant :=
  ⟨waiting.trans h.waiting, fun task mem => (tasks task mem).elim (h.timers task) id⟩

theorem Dormant.enqueue (h : s.Dormant) (object : Nat) : (s.enqueue object).Dormant := by
  obtain ⟨jobs, pushed, -⟩ := Pushed.enqueue s object
  refine h.of_tasks pushed.waiting fun task mem => ?_
  rcases List.mem_append.mp (pushed.tasks_perm.mem_iff.mp mem) with new | old
  · obtain ⟨generation, -, rfl⟩ := List.mem_map.mp new
    exact .inr rfl
  · exact .inl old

theorem Dormant.endQuiet (h : s.Dormant) {generation : Nat}
    (still : (s.endQuiet generation).drains = s.drains) : (s.endQuiet generation).Dormant := by
  unfold State.endQuiet at still ⊢
  split at still
  · rw [drain_eq] at still
    simp at still
  · next other =>
    rw [if_neg other]
    exact h

/-- Without a drain, no job is started. -/
theorem Dormant.turn (h : s.Dormant) (turn : Unattended setup s t) (still : t.drains = s.drains) :
    t.Dormant := by
  cases turn with
  | create | wait => exact ⟨h.waiting, h.timers⟩
  | reorder tasks perm =>
    exact h.of_tasks rfl fun task mem => .inl ((perm.append_right _).mem_iff.mp mem)
  | elapse time =>
    exact h.of_tasks rfl fun task mem => .inl ((s.tasks_wakeAt_perm time).mem_iff.mp mem)
  | step _ step =>
    unfold step? at step
    split at step
    · next task rest ready =>
      cases step
      have popped : (s.pop rest).Dormant := h.of_tasks rfl fun task' mem =>
        .inl (tasks_pop ready ▸ List.mem_cons_of_mem _ mem)
      have timer := h.timers task (by simp [tasks, ready])
      cases task with
      | countdown generation =>
        simp only [runTask, sleepThen] at still ⊢
        split at still
        · next none =>
          rw [if_pos none]
          exact popped.endQuiet still
        · next some =>
          rw [if_neg some]
          refine popped.of_tasks rfl fun task mem => (mem_tasks_sleep.mp mem).imp_right ?_
          rintro rfl
          rfl
      | due generation => exact popped.endQuiet still
      | flush | admitted | job => cases timer
    · obtain ⟨time, -, rfl⟩ := Option.map_eq_some_iff.mp step
      exact h.of_tasks rfl fun task mem => .inl ((s.tasks_wakeAt_perm time).mem_iff.mp mem)

/-- A dormant queue only lets objects join. -/
theorem Dormant.interlude (h : s.Dormant) (turn : Turn setup s t) : Interlude s t := by
  refine turn.runs_or_interlude.resolve_left ?_
  rintro ⟨id, stage, rest, ready, -⟩
  have timer := h.timers (.job id stage) (by simp [tasks, ready])
  cases timer

end State

theorem Unattended.handles (turn : Unattended setup s t) : t.handles = s.handles := by
  cases turn with
  | step _ step => exact handles_step? step
  | _ => rfl

/-- The saves of objects that get handles one after the other. -/
def savesFrom (handle : Nat) (objects : List Nat) : List Save :=
  (objects.zipIdx handle).map fun entry => ⟨entry.1, entry.2⟩

theorem savesFrom_concat (handle : Nat) (objects : List Nat) (object : Nat) :
    savesFrom handle (objects ++ [object]) =
      savesFrom handle objects ++ [⟨object, handle + objects.length⟩] := by
  simp [savesFrom, List.zipIdx_append]

theorem map_object_savesFrom (handle : Nat) (objects : List Nat) :
    (savesFrom handle objects).map Save.object = objects := by
  simp [savesFrom, Function.comp_def]

theorem length_savesFrom (handle : Nat) (objects : List Nat) :
    (savesFrom handle objects).length = objects.length := by
  simp [savesFrom]

/-- Objects have joined their bucket since the queue was at rest, in order, and nothing else has. -/
structure Joined (setup : Setup) (key : BucketKey) (r : State) (objects : List Nat) (s : State) :
    Prop where
  reachable : ReachableInAnyOrder setup s
  run : Relation.ReflTransGen (Patient setup) r s
  handles : s.handles = r.handles + objects.length
  joined : joinedIn key s.events = joinedIn key r.events ++ savesFrom r.handles objects
  others : ∀ other ≠ key, joinedIn other s.events = joinedIn other r.events

theorem Joined.unattended (h : Joined setup key r objects s)
    (run : Relation.ReflTransGen (Unattended setup) s t) : Joined setup key r objects t := by
  induction run with
  | refl => exact h
  | tail _ turn ih =>
    have joined (key : BucketKey) := ih.reachable.joinedIn_of_handles turn.turn turn.handles key
    exact ⟨.turn ih.reachable turn.turn, ih.run.tail (.unattended turn),
      turn.handles.trans ih.handles, (joined key).trans ih.joined,
      fun other ne => (joined other).trans (ih.others other ne)⟩

/-- The objects wait in their bucket, and no job is under way. -/
structure Collected (setup : Setup) (key : BucketKey) (r : State) (objects : List Nat) (s : State) :
    Prop extends Joined setup key r objects s where
  dormant : s.Dormant
  wires : s.wires = r.wires

theorem Collects.collected (collects : Collects setup key r objects s)
    (h : ReachableInAnyOrder setup r) (quiescent : r.Quiescent) :
    Collected setup key r objects s := by
  induction collects with
  | nothing =>
    exact ⟨⟨h, .refl, rfl, by simp [savesFrom], fun _ _ => rfl⟩,
      .of_quiescent quiescent (h.of_quiescent quiescent).2.1, rfl⟩
  | passes _ turn still ih =>
    exact ⟨ih.toJoined.unattended (.single turn), ih.dormant.turn turn still,
      (ih.dormant.interlude turn.turn).wires.trans ih.wires⟩
  | @enqueues objects s object _ known new same ih =>
    have turn : Patient setup s (s.enqueue object) := .enqueue s object known
    refine ⟨⟨.turn ih.reachable turn.turn, ih.run.tail turn, ?_, ?_, fun other ne => ?_⟩,
      ih.dormant.enqueue object, (Interlude.enqueue s object).wires.trans ih.wires⟩
    · rw [(s.enqueue_counts object).2, ih.handles, List.length_append, List.length_singleton,
        Nat.add_assoc]
    · rw [joinedIn_enqueue, if_pos ⟨new, same⟩, ih.joined, ih.handles, savesFrom_concat,
        List.append_assoc]
    · rw [joinedIn_enqueue, if_neg fun both => ne (both.2.symm.trans same), List.append_nil,
        ih.others other ne]

end Collecting

section Taking

open Workload (TakenInTurn)

variable {key : BucketKey} {limit size : Nat} {past news : List Event} {front line : List Save}

theorem Workload.TakenInTurn.of_append (h : TakenInTurn limit (past ++ news)) :
    TakenInTurn limit past := by
  intro before key batch after split
  exact h before key batch (after ++ news) (by simp [split])

/-- Where nothing more joins a bucket, the batches taken are the chunks of its line. -/
theorem Workload.TakenInTurn.takenIn_prefix (h : TakenInTurn limit (past ++ news))
    (joined : joinedIn key past = front ++ line)
    (taken : (takenIn key past).flatten.length = front.length) (none : joinedIn key news = [])
    (pos : 0 < size) (sized : size = if key.background then line.length else limit) :
    takenIn key news <+: chunks size line := by
  induction news using List.reverseRecOn with
  | nil => exact List.nil_prefix
  | append_singleton news e ih =>
    rw [joinedIn_append, List.append_eq_nil_iff] at none
    rw [← List.append_assoc] at h
    have before := ih h.of_append none.1
    cases event : e.taken? key with
    | none =>
      rw [takenIn_append, takenIn.eq_1 key [e], List.filterMap_cons_none event]
      simpa using before
    | some batch =>
      obtain rfl := Event.taken?_eq_some_iff.mp event
      obtain ⟨some, ahead, length⟩ := h (past ++ news) key batch [] rfl
      have here := List.prefix_iff_eq_take.mp before
      have le := before.length_le
      generalize (takenIn key news).length = k at here le
      -- What is pending is what the chunks taken so far leave of the line.
      have pending : pendingIn key (past ++ news) = line.drop (k * size) := by
        rw [pendingIn, joinedIn_append, none.1, List.append_nil, joined, takenIn_append,
          List.flatten_append, List.length_append, taken, here, flatten_take_chunks le,
          List.drop_length_add_append, List.length_take]
        exact List.drop_eq_drop_iff.mpr (by omega)
      rw [pending] at ahead length
      have lt : k * size < line.length := by
        by_contra beyond
        rw [List.drop_eq_nil_of_le (by omega)] at ahead
        exact some (List.prefix_nil.mp ahead)
      have next : batch = (line.drop (k * size)).take size := by
        refine (List.prefix_iff_eq_take.mp ahead).trans (List.take_eq_take_iff.mpr ?_)
        rw [length, sized, List.length_drop]
        split <;> omega
      have last : takenIn key [.taken key batch] = [batch] := by simp [takenIn, Event.taken?]
      rw [takenIn_append, last, here, next, ← take_chunks_succ pos lt]
      exact List.take_prefix _ _

end Taking

section Sending

open State Workload

variable {setup : Setup} {key : BucketKey} {r s t : State} {objects : List Nat} {size : Nat}

/-- At rest, all that joined a bucket was taken. -/
theorem ReachableInAnyOrder.flatten_takenIn (h : ReachableInAnyOrder setup r)
    (quiescent : r.Quiescent) (key : BucketKey) :
    (takenIn key r.events).flatten = joinedIn key r.events := by
  have none : r.workload.underway = 0 := (h.of_quiescent quiescent).2.2.1
  exact h.workload.inLine.flatten_takenIn fun b hb _ =>
    (h.workload.tokens.idle_of_underway_eq_zero none hb).1

theorem Joined.exists_news (j : Joined setup key r objects t) (h : ReachableInAnyOrder setup r) :
    r.workload.Keeps t.toLedger ∧ ∃ news, t.events = r.events ++ news := by
  have steps := (Patient.later j.run).steps h.workload.tokens.guarded
  exact ⟨steps.keeps, steps.exists_news⟩

/-- The batches taken of the bucket since are chunks of the objects. -/
theorem Collected.takenIn_prefix (c : Collected setup key r objects s)
    (h : ReachableInAnyOrder setup r) (quiescent : r.Quiescent) (pos : 0 < size)
    (sized : size = if key.background then objects.length else setup.settings.batchLimit)
    (run : Relation.ReflTransGen (Unattended setup) s t) {news : List Event}
    (events : t.events = r.events ++ news) :
    takenIn key news <+: chunks size (savesFrom r.handles objects) := by
  have later := c.toJoined.unattended run
  obtain ⟨more, grown⟩ : ∃ more, t.events = s.events ++ more :=
    ((Unattended.later run).steps c.reachable.workload.tokens.guarded).exists_news
  have early : takenIn key s.events = takenIn key r.events := by
    rw [Ledger.takenIn_eq_wires, Ledger.takenIn_eq_wires, c.wires]
  have none : joinedIn key more = [] := by
    have all := later.joined.trans c.joined.symm
    rw [grown, joinedIn_append] at all
    exact List.append_right_eq_self.mp all
  have same : takenIn key news = takenIn key more := by
    have all := congrArg (takenIn key) (events.symm.trans grown)
    rw [takenIn_append, takenIn_append, early] at all
    exact List.append_cancel_left all
  have inTurn : TakenInTurn setup.settings.batchLimit (s.events ++ more) :=
    grown ▸ later.reachable.workload.takenInTurn setup.settings.batchLimit_pos
  rw [same]
  refine inTurn.takenIn_prefix c.joined ?_ none pos (by rw [sized, length_savesFrom])
  rw [early, h.flatten_takenIn quiescent]

/-- Of no other bucket a batch was taken. -/
theorem Joined.takenIn_other (j : Joined setup key r objects t) (h : ReachableInAnyOrder setup r)
    (quiescent : r.Quiescent) {news : List Event} (events : t.events = r.events ++ news)
    {other : BucketKey} (ne : other ≠ key) : takenIn other news = [] := by
  have grown : takenIn other t.events = takenIn other r.events ++ takenIn other news := by
    rw [events, takenIn_append]
  have inside : (takenIn other t.events).flatten <+: joinedIn other t.events :=
    j.reachable.workload.inLine.taken_prefix other
  rw [j.others other ne, ← h.flatten_takenIn quiescent, grown, List.flatten_append] at inside
  have nothing : (takenIn other news).flatten = [] := by
    have short := inside.length_le
    rw [List.length_append] at short
    exact List.eq_nil_of_length_eq_zero (by omega)
  refine List.eq_nil_iff_forall_not_mem.mpr fun batch mem => ?_
  have taken : .taken other batch ∈ t.events :=
    mem_takenIn.mp (grown ▸ List.mem_append_right _ mem)
  obtain ⟨before, after, split⟩ := List.append_of_mem taken
  have inTurn := j.reachable.workload.takenInTurn setup.settings.batchLimit_pos
  exact (inTurn before other batch after split).1 (List.flatten_eq_nil_iff.mp nothing batch mem)

/-- The requests sent since, with one that may be about to leave, are those that the batches taken
since make. -/
theorem Joined.posted_departing (j : Joined setup key r objects t)
    (h : ReachableInAnyOrder setup r) (quiescent : r.Quiescent) {news : List Event}
    (events : t.events = r.events ++ news) (other : BucketKey) :
    news.filterMap (Event.posted? other) ++ t.departing other =
      (takenIn other news).filterMap (t.request? other (t.pluralOf other)) := by
  have none : r.departing other = [] := by simp [departing, quiescent.tasks]
  have before := h.posted_departing other
  have after := j.reachable.posted_departing other
  have kept : r.workload.Keeps t.workload.toLedger := (j.exists_news h).1
  have made : t.requestsOf other = r.requestsOf other ++ _ :=
    h.workload.inLine.requestsOf_append kept events other
  rw [none, List.append_nil] at before
  rw [Ledger.posted_append events, made, ← before, List.append_assoc] at after
  exact List.append_cancel_left after

theorem Joined.posted_other (j : Joined setup key r objects t) (h : ReachableInAnyOrder setup r)
    (quiescent : r.Quiescent) {news : List Event} (events : t.events = r.events ++ news)
    {other : BucketKey} (ne : other ≠ key) : news.filterMap (Event.posted? other) = [] := by
  have all := j.posted_departing h quiescent events other
  rw [j.takenIn_other h quiescent events ne, List.filterMap_nil, List.append_eq_nil_iff] at all
  exact all.1

/-- All requests sent since are of the bucket. -/
theorem Joined.requests (j : Joined setup key r objects t) (h : ReachableInAnyOrder setup r)
    (quiescent : r.Quiescent) {news : List Event} (events : t.events = r.events ++ news) :
    t.requests = r.requests ++ (news.filterMap (Event.posted? key)).map Prod.snd := by
  rw [Ledger.requests_eq_history, Ledger.requests_eq_history, Ledger.history, events,
    List.filterMap_append, Ledger.history, List.map_filterMap]
  refine congrArg _ (List.filterMap_congr fun e mem => ?_)
  cases e with
  | posted other batch request =>
    by_cases same : other = key
    · simp [Event.request?, Event.posted?, same]
    · have none := j.posted_other h quiescent events same
      have here := List.filterMap_eq_nil_iff.mp none _ mem
      simp [Event.posted?] at here
  | _ => rfl

/-- What is sent since are the requests of the chunks, in order, and all of them at rest. -/
theorem Collected.requests (c : Collected setup key r objects s) (h : ReachableInAnyOrder setup r)
    (quiescent : r.Quiescent) (pos : 0 < size)
    (sized : size = if key.background then objects.length else setup.settings.batchLimit)
    (run : Relation.ReflTransGen (Unattended setup) s t) {body : Nat → Json}
    (serializes : ∀ object ∈ objects, (t.saveable object).body = some (body object)) :
    ∃ sent, t.requests = r.requests ++ sent ∧
      sent <+: (chunks size objects).map (fun chunk =>
        key.request (t.pluralOf key) (chunk.map body)) ∧
      (t.Quiescent → sent = (chunks size objects).map fun chunk =>
        key.request (t.pluralOf key) (chunk.map body)) := by
  have j := c.toJoined.unattended run
  obtain ⟨-, news, events⟩ := j.exists_news h
  have taken := c.takenIn_prefix h quiescent pos sized run events
  have departing := j.posted_departing h quiescent events key
  -- Each batch is a part of the objects, so it makes a request.
  have made : (takenIn key news).filterMap (t.request? key (t.pluralOf key)) =
      (takenIn key news).map fun batch =>
        (batch, key.request (t.pluralOf key) ((batch.map Save.object).map body)) := by
    rw [← List.filterMap_eq_map]
    refine List.filterMap_congr fun batch mem => Ledger.request?_of_serializes fun save there => ?_
    refine serializes _ ?_
    have inside : save ∈ savesFrom r.handles objects := by
      rw [← flatten_chunks (l := savesFrom r.handles objects) pos]
      exact List.mem_flatten.mpr ⟨batch, taken.subset mem, there⟩
    rw [← map_object_savesFrom r.handles objects]
    exact List.mem_map_of_mem inside
  have requests : (chunks size objects).map (fun chunk =>
      key.request (t.pluralOf key) (chunk.map body)) =
      (chunks size (savesFrom r.handles objects)).map fun batch =>
        key.request (t.pluralOf key) ((batch.map Save.object).map body) := by
    conv_lhs => rw [← map_object_savesFrom r.handles objects]
    rw [map_chunks, List.map_map]
    rfl
  rw [made] at departing
  have sent : (news.filterMap (Event.posted? key)).map Prod.snd <+:
      (takenIn key news).map fun batch =>
        key.request (t.pluralOf key) ((batch.map Save.object).map body) := by
    refine ⟨(t.departing key).map Prod.snd, ?_⟩
    rw [← List.map_append, departing, List.map_map]
    rfl
  refine ⟨_, j.requests h quiescent events, requests ▸ sent.trans (taken.map _), fun rest => ?_⟩
  have none : t.departing key = [] := by simp [State.departing, rest.tasks]
  have all : takenIn key news = chunks size (savesFrom r.handles objects) := by
    refine eq_chunks_of_flatten pos taken ?_
    have after := j.reachable.flatten_takenIn rest key
    rw [j.joined, events, takenIn_append, List.flatten_append, h.flatten_takenIn quiescent] at after
    exact List.append_cancel_left after
  rw [none, List.append_nil] at departing
  rw [departing, List.map_map, all, requests]
  rfl

end Sending

section Ending

open State Workload

variable {setup : Setup} {key : BucketKey} {r s t : State} {objects : List Nat} {size : Nat}

theorem getElem?_savesFrom (handle : Nat) {i object : Nat} (at_i : objects[i]? = some object) :
    (savesFrom handle objects)[i]? = some ⟨object, handle + i⟩ := by
  simp [savesFrom, at_i]

theorem le_of_mem_savesFrom {handle : Nat} {save : Save} (mem : save ∈ savesFrom handle objects) :
    handle ≤ save.handle ∧ save.object ∈ objects := by
  obtain ⟨⟨object, number⟩, there, rfl⟩ := List.mem_map.mp mem
  obtain ⟨le, lt, same⟩ := List.mem_zipIdx there
  exact ⟨le, same ▸ List.getElem_mem _⟩

/-- The saves of the objects had not joined a bucket before. -/
theorem ReachableInAnyOrder.notMem_joinedIn (h : ReachableInAnyOrder setup r) {save : Save}
    (mem : save ∈ savesFrom r.handles objects) (key : BucketKey) :
    save ∉ joinedIn key r.events := by
  intro old
  have lt := h.workload.handle_lt (Workload.mem_asked_of_mem_joinedIn old)
  exact Nat.lt_irrefl _ (lt.trans_le (le_of_mem_savesFrom mem).1)

theorem Joined.known (j : Joined setup key r objects s) {object : Nat} (mem : object ∈ objects) :
    object < s.records.length := by
  rw [← map_object_savesFrom r.handles objects] at mem
  obtain ⟨save, there, rfl⟩ := List.mem_map.mp mem
  refine (j.reachable.workload.inLine.known key save ?_).1
  change save ∈ joinedIn key s.events
  rw [j.joined]
  exact List.mem_append_right _ there

/-- Over an echoing transport, no crash cuts the saves of the objects short. -/
theorem Collected.uncut (c : Collected setup key r objects s) (h : ReachableInAnyOrder setup r)
    (quiescent : r.Quiescent) (pos : 0 < size)
    (sized : size = if key.background then objects.length else setup.settings.batchLimit)
    (run : Relation.ReflTransGen (Unattended setup) s t) (echoes : setup.Echoes)
    {body value : Nat → Json}
    (serializes : ∀ object ∈ objects, (t.saveable object).body = some (body object))
    (returns : ∀ object ∈ objects,
      (t.saveable object).hook (body object) = .returned (value object))
    {save : Save} (mem : save ∈ savesFrom r.handles objects) :
    ¬CutShort t.saveable t.events key save := by
  have j := c.toJoined.unattended run
  have fresh := h.notMem_joinedIn mem key
  obtain ⟨-, news, events⟩ := j.exists_news h
  have calm {batch : List Save} (taken : .taken key batch ∈ news) : ¬Spoiled t.saveable batch := by
    rintro ⟨other, inside, crashes⟩
    have part := c.takenIn_prefix h quiescent pos sized run events
    have own : other ∈ savesFrom r.handles objects := by
      rw [← flatten_chunks (l := savesFrom r.handles objects) pos]
      exact List.mem_flatten.mpr ⟨batch, part.subset (mem_takenIn.mpr taken), inside⟩
    rw [serializes _ (le_of_mem_savesFrom own).2] at crashes
    cases crashes
  intro cut
  cases cut with
  | spoiled taken spoiled inside =>
    rw [events] at taken
    rcases List.mem_append.mp taken with old | new
    · exact fresh (h.workload.inLine.mem_joined_of_taken (mem_takenIn.mpr old) inside)
    · exact calm new spoiled
  | aborted split spoiled _ _ held =>
    rw [events] at split
    rcases split_append split with ⟨rest, old⟩ | ⟨first, -, new⟩
    · exact fresh (h.workload.joined_of_held old held)
    · exact calm (new ▸ by simp) spoiled
  | @handedBack before mid after first payload p q split hands hook at_p at_q le =>
    have held := List.mem_of_getElem? at_p
    have joined := j.reachable.workload.joined_of_held split held
    rw [show joinedIn key t.workload.events = _ from j.joined, List.mem_append] at joined
    rcases joined with old | own
    · -- What had joined before the queue was at rest had ended by then, and was not held since.
      rw [events] at split
      rcases List.append_eq_append_iff.mp split with ⟨rest, rfl, -⟩ | ⟨rest, early, -⟩
      · have none : r.workload.underway = 0 := (h.of_quiescent quiescent).2.2.1
        have ended : first ∈ r.ended := by
          rw [← Multiset.mem_coe, show (↑r.ended : Multiset Save) = _ from
            h.workload.ended_eq_asked none, Multiset.mem_coe]
          exact List.mem_map_of_mem (Workload.mem_asked_of_mem_joinedIn old)
        refine (mem_heldIn.mp held).2 ?_
        rw [List.filterMap_append]
        exact List.mem_append_left _ ended
      · exact fresh (h.workload.joined_of_held early (List.mem_of_getElem? at_q))
    · have called : .hooked first payload ∈ t.events := split ▸ by simp
      have known := (le_of_mem_savesFrom own).2
      have serialized := j.reachable.body_of_hooked echoes called
      rw [serializes _ known] at serialized
      have returned := returns _ known
      rw [Option.some.inj serialized, hook] at returned
      cases returned

/-- A machine that is left alone takes its steps unattended. -/
theorem State.unattended_runSteps (setup : Setup) (finished : State → Bool) (fuel : Nat)
    (s : State) : Relation.ReflTransGen (Unattended setup) s (s.runSteps setup finished fuel) := by
  induction fuel generalizing s with
  | zero => exact .refl
  | succ fuel ih =>
    unfold State.runSteps
    split
    · exact .refl
    · split
      · next t step => exact .head (.step s t step) (ih t)
      · exact .refl

/-- The objects of one bucket that are enqueued on a queue at rest, before a drain runs and with
nothing else enqueued or flushed, go out in the chunks of their order: a background bucket sends all
in one request, and a foreground bucket as many in each as the limit allows, and the rest in the
last. At any time some of these requests were sent, in order, and no others; once the queue is at
rest, to which the machine comes when it is left alone, all were. Each leaves when those before it
have been answered and the delay has passed since. Over a transport that echoes, every object is
created as its hook makes of its own serialization. -/
theorem ReachableInAnyOrder.sends_in_chunks (h : ReachableInAnyOrder setup r)
    (quiescent : r.Quiescent) (collects : Collects setup key r objects s) (some : objects ≠ [])
    {body : Nat → Json}
    (serializes : ∀ object ∈ objects, (s.saveable object).body = .some (body object))
    (run : Relation.ReflTransGen (Unattended setup) s t) :
    let size := if key.background then objects.length else max 1 setup.settings.batchSize.toNat
    let count := (objects.length + size - 1) / size
    let requests := (chunks size objects).map fun chunk =>
      key.request (t.pluralOf key) (chunk.map body)
    (chunks size objects).flatten = objects ∧ (chunks size objects).length = count ∧
      (key.background = true → chunks size objects = [objects]) ∧
      (∀ (i : Nat) chunk, (chunks size objects)[i]? = .some chunk →
        chunk.length = if i + 1 < count then size else objects.length - size * (count - 1)) ∧
      (∃ sent, t.requests = r.requests ++ sent ∧ sent <+: requests ∧
        (t.Quiescent → sent = requests)) ∧
      (∃ last, Relation.ReflTransGen (Unattended setup) t last ∧ last.Quiescent) ∧
      Spaced key setup.settings.delay r.wires t.wires ∧
      s.handles = r.handles + objects.length ∧
      (setup.Echoes → ∀ value : Nat → Json,
        (∀ object ∈ objects, (s.saveable object).hook (body object) = .returned (value object)) →
        t.Quiescent → ∀ (i : Nat) object, objects[i]? = .some object →
          t.result? (r.handles + i) = .some (.ok (.created (value object)))) := by
  intro size count requests
  have c := collects.collected h quiescent
  have j := c.toJoined.unattended run
  have sized : size = if key.background then objects.length else setup.settings.batchLimit := rfl
  have pos : 0 < size := by
    have filled : 0 < objects.length := List.length_pos_of_ne_nil some
    have limit := setup.settings.batchLimit_pos
    rw [sized]
    split <;> assumption
  have kept (object : Nat) (mem : object ∈ objects) : t.saveable object = s.saveable object :=
    ((Unattended.later run).steps c.reachable.workload.tokens.guarded).keeps.saveable object
      (c.toJoined.known mem)
  have length : (chunks size objects).length = count := length_chunks size objects
  refine ⟨flatten_chunks pos, length, fun background => ?_, fun i chunk at_i => ?_, ?_, ?_,
    h.spaced quiescent j.run, c.handles, ?_⟩
  · exact chunks_of_length_le some (by rw [sized, if_pos background])
  · rw [← length]
    exact length_of_getElem?_chunks pos at_i
  · exact c.requests h quiescent pos sized run fun object mem =>
      kept object mem ▸ serializes object mem
  · exact ⟨_, t.unattended_runSteps setup _ _, t.quiescent_runUntil setup⟩
  · intro echoes value returns rest i object at_i
    have mem := List.mem_of_getElem? (getElem?_savesFrom r.handles at_i)
    have known := List.mem_of_getElem? at_i
    have serializes (object : Nat) (mem : object ∈ objects) :=
      kept object mem ▸ serializes object mem
    have returns (object : Nat) (mem : object ∈ objects) := kept object mem ▸ returns object mem
    have uncut := c.uncut h quiescent pos sized run echoes serializes returns mem
    refine j.reachable.created_of_echoes echoes rest (mem_joinedIn.mp ?_) uncut
      (serializes object known) (returns object known)
    rw [j.joined]
    exact List.mem_append_right _ mem

/-- Three objects, and a limit of two: the last goes out on its own, and all are created. -/
theorem three_objects_in_two_chunks :
    let setup := Setup.echoing { batchSize := 2 }
    let t := setup.after [⟨{}, true, 0, none⟩, ⟨{}, true, 0, none⟩, ⟨{}, true, 0, none⟩] 20
    let item : Json := .obj [("control", .obj [])]
    t.requests = [⟨"controls", false, [item, item]⟩, ⟨"controls", false, [item]⟩] ∧
      ∀ i < 3, t.result? i = some (.ok (.created (.obj []))) := by
  intro setup t item
  let record : Record := ⟨{}, true, 0, none⟩
  let s := (State.initial setup.settings).submit [record, record, record]
  have collects : Collects setup (.ofSaveable {}) (.initial setup.settings) [0, 1, 2] s :=
    Collects.nothing.submit [record, record, record] (by simp [record])
  have run : Relation.ReflTransGen (Unattended setup) s t := s.unattended_runSteps setup _ 20
  have rest : t.Quiescent := by decide +kernel
  have plural : t.pluralOf (.ofSaveable {}) = "controls" := by decide +kernel
  have serializes : ∀ object ∈ [0, 1, 2], (s.saveable object).body = some (.obj []) := by
    decide +kernel
  obtain ⟨-, -, -, -, ⟨sent, requests, -, all⟩, -, -, -, created⟩ :=
    ReachableInAnyOrder.initial.sends_in_chunks ⟨rfl, rfl⟩ collects (by decide) serializes run
  constructor
  · rw [requests, all rest, plural]
    decide +kernel
  · intro i lt
    have hooks : ∀ object ∈ [0, 1, 2],
        (s.saveable object).hook (.obj []) = .returned (.obj []) := by decide +kernel
    have at_i : ∀ i < 3, [0, 1, 2][i]? = some i := by decide
    have settled := created (fun _ _ => rfl) (fun _ => .obj []) hooks rest i i (at_i i lt)
    rwa [show (State.initial setup.settings).handles = 0 from rfl, Nat.zero_add] at settled

end Ending

end Queue

end Writeback
