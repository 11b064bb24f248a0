import Mathlib.Algebra.Order.BigOperators.Group.Multiset
import Mathlib.Algebra.Order.Group.Nat
import Writeback.Proofs.Queue.Requests

/-!
# Buckets in flight

A bucket is in flight exactly as long as one cycle of it exists, wherever that stands: in the
queue, among the jobs that a drain has taken and not started, or running. There are never two. A
bucket out of flight is empty, and one whose cycle has not started has something to send. So at no
time is more than one request of a bucket out, and no request is empty.
-/

namespace Writeback.Queue

/-- The jobs that a task has taken out of the queue and not started. -/
def Task.unstarted : Task → List Job
  | .admitted drain => drain.jobs
  | .job _ (.start next) => [next]
  | _ => []

/-- The batch that a task has taken and is sending. -/
def Task.cycle? : Task → Option Cycle
  | .job _ (.depart cycle) | .job _ (.arrive cycle) => some cycle
  | _ => none

namespace State

/-- The jobs that drains have taken out of the queue and not started. -/
def drained (s : State) : List Job :=
  s.waiting.flatMap Drain.jobs ++ s.tasks.flatMap Task.unstarted

def running (s : State) : List Cycle := s.tasks.filterMap Task.cycle?

/-- How many cycles of a bucket there are in the queue, with drains, and running. -/
def cycleCount (s : State) (key : BucketKey) : Nat :=
  s.jobs.count (.cycle key) + s.drained.count (.cycle key) +
    s.running.countP fun cycle => cycle.key = key

theorem count_keys_jobs (jobs : List Job) (key : BucketKey) :
    ((↑jobs : Multiset Job).bind fun job => (Phase.waiting job).keys).count key =
      jobs.count (.cycle key) := by
  induction jobs with
  | nil => rfl
  | cons job jobs ih =>
    rw [← Multiset.cons_coe, Multiset.cons_bind, Multiset.count_add, ih, List.count_cons]
    cases job with
    | cycle other =>
      rcases eq_or_ne other key with rfl | ne
      · simp [add_comm]
      · simp [ne, ne.symm]
    | update save => simp

theorem count_keys_tasks (tasks : List Task) (key : BucketKey) :
    ((↑tasks : Multiset Task).bind fun task => task.phases.bind Phase.keys).count key =
      (tasks.flatMap Task.unstarted).count (.cycle key) +
        (tasks.filterMap Task.cycle?).countP fun cycle => cycle.key = key := by
  induction tasks with
  | nil => rfl
  | cons task tasks ih =>
    rw [← Multiset.cons_coe, Multiset.cons_bind, Multiset.count_add, ih, List.flatMap_cons,
      List.count_append]
    have here : (task.phases.bind Phase.keys).count key =
        task.unstarted.count (.cycle key) +
          task.cycle?.toList.countP fun cycle => cycle.key = key := by
      cases task with
      | admitted drain =>
        rw [Task.phases, ← Multiset.map_coe, Multiset.bind_map]
        exact count_keys_jobs drain.jobs key
      | job id stage =>
        cases stage with
        | start next =>
          have one := count_keys_jobs [next] key
          simpa [Task.phases, Stage.phase, Task.unstarted, Task.cycle?] using one
        | depart cycle | arrive cycle =>
          rcases eq_or_ne cycle.key key with same | ne
          · simp [Task.phases, Stage.phase, Task.unstarted, Task.cycle?, same]
          · simp [Task.phases, Stage.phase, Task.unstarted, Task.cycle?, ne, ne.symm]
        | saved save timer => rfl
      | _ => rfl
    have cycles : (task :: tasks).filterMap Task.cycle? =
        task.cycle?.toList ++ tasks.filterMap Task.cycle? := by
      cases h : task.cycle? <;> simp [h]
    rw [here, cycles, List.countP_append]
    omega

theorem phase_mem_underway {s : State} {id : Nat} {stage : Stage}
    (mem : .job id stage ∈ s.tasks) : stage.phase ∈ s.underway := by
  have parts := s.bind_underway fun p => {p}
  rw [Multiset.bind_singleton, Multiset.map_id'] at parts
  rw [parts, Multiset.mem_add]
  right
  exact Multiset.mem_bind.mpr ⟨_, Multiset.mem_coe.mpr mem, by simp [Task.phases]⟩

theorem mem_underway_of_unstarted (s : State) {job : Job} (mem : job ∈ s.jobs ++ s.drained) :
    .waiting job ∈ s.underway := by
  have parts := s.bind_underway fun p => {p}
  rw [Multiset.bind_singleton, Multiset.map_id'] at parts
  rw [parts, Multiset.mem_add]
  rw [drained, ← List.append_assoc] at mem
  rcases List.mem_append.mp mem with early | late
  · left
    exact Multiset.mem_bind.mpr ⟨job, Multiset.mem_coe.mpr early, Multiset.mem_singleton_self _⟩
  · obtain ⟨task, hm, hj⟩ := List.mem_flatMap.mp late
    refine .inr (Multiset.mem_bind.mpr ⟨task, Multiset.mem_coe.mpr hm, ?_⟩)
    rw [Multiset.bind_singleton, Multiset.map_id']
    cases task with
    | admitted drain => exact Multiset.mem_coe.mpr (List.mem_map_of_mem hj)
    | job id stage =>
      cases stage with
      | start next =>
        rw [List.mem_singleton.mp hj]
        exact Multiset.mem_singleton_self _
      | _ => simp [Task.unstarted] at hj
    | _ => simp [Task.unstarted] at hj

/-- The cycles of a bucket that exist are the jobs under way that are cycles of it. -/
theorem count_keys (s : State) (key : BucketKey) :
    (s.underway.bind Phase.keys).count key = s.cycleCount key := by
  rw [bind_underway, Multiset.count_add, count_keys_jobs, count_keys_tasks, List.count_append,
    cycleCount, drained, List.count_append, running]
  omega

end State

namespace Workload

variable {limit : Nat} {w w' : Workload}

theorem Tokens.count_le_one (h : Tokens w) (key : BucketKey) :
    (w.underway.bind Phase.keys).count key ≤ 1 :=
  Multiset.nodup_iff_count_le_one.mp h.nodup_tokens key

theorem Tokens.inFlight_iff (h : Tokens w) {b : Bucket} (hb : b ∈ w.buckets) :
    b.inFlight = true ↔ (w.underway.bind Phase.keys).count b.key = 1 := by
  have one : (w.underway.bind Phase.keys).count b.key = 1 ↔ b.key ∈ w.underway.bind Phase.keys := by
    rw [← Multiset.one_le_count_iff_mem]
    have le := h.count_le_one b.key
    omega
  rw [one, h.token, Multiset.mem_map]
  constructor
  · intro flying
    exact ⟨b, Multiset.mem_filter.mpr ⟨hb, flying⟩, rfl⟩
  · rintro ⟨c, hc, same⟩
    obtain ⟨hc, flying⟩ := Multiset.mem_filter.mp hc
    rwa [h.eq_of_key hb hc same] at flying

theorem Tokens.count_eq_zero (h : Tokens w) {key : BucketKey}
    (fresh : key ∉ w.buckets.map Bucket.key) : (w.underway.bind Phase.keys).count key = 0 := by
  rw [Multiset.count_eq_zero, h.token]
  intro mem
  exact fresh (Multiset.mem_of_le (Multiset.map_le_map (Multiset.filter_le _ _)) mem)

theorem Tokens.card_toAnswer_le (h : Tokens w) (key : BucketKey) : (w.toAnswer key).card ≤ 1 := by
  refine le_trans ?_ (h.count_le_one key)
  rw [toAnswer, Multiset.card_bind, Multiset.count_bind]
  apply Multiset.sum_map_le_sum_map
  intro p _
  cases p with
  | sent cycle => by_cases same : cycle.key = key <;> simp [Phase.toAnswer, same]
  | _ => exact Nat.zero_le _

theorem InTurn.length_posted_le (h : InTurn w) (tokens : Tokens w) (key : BucketKey) :
    (w.posted key).length ≤ (w.answered key).length + 1 := by
  have all := congrArg List.length (h.answers key (w.toAnswer key).toList (Multiset.coe_toList _))
  have one := tokens.card_toAnswer_le key
  rw [List.length_append, Multiset.length_toList, Ledger.closedRequests, List.length_map] at all
  omega

/-- At any time, all requests of a bucket but one have been answered. -/
def OneOut (key : BucketKey) (events : List Event) : Prop :=
  ∀ before, before <+: events →
    (before.filterMap (Event.posted? key)).length ≤
      (before.filterMap (Event.answered? key)).length + 1

theorem OneOut.append_silent {key : BucketKey} {events news : List Event} (h : OneOut key events)
    (silent : ∀ e ∈ news, e.isWire = false) : OneOut key (events ++ news) := by
  rintro before ⟨after, split⟩
  rcases List.append_eq_append_iff.mp split with ⟨rest, rfl, -⟩ | ⟨first, rfl, rfl⟩
  · exact h before (List.prefix_append _ _)
  · have none : ∀ e ∈ first, e.isWire = false := fun e he => silent e (List.mem_append_left _ he)
    rw [List.filterMap_append, List.filterMap_append, posted_of_silent none,
      answered_of_silent none, List.append_nil, List.append_nil]
    exact h events List.prefix_rfl

theorem OneOut.append_singleton {key : BucketKey} {events : List Event} {e : Event}
    (h : OneOut key events)
    (last : ((events ++ [e]).filterMap (Event.posted? key)).length ≤
      ((events ++ [e]).filterMap (Event.answered? key)).length + 1) :
    OneOut key (events ++ [e]) := by
  intro before part
  rcases List.prefix_concat_iff.mp part with rfl | part
  · exact last
  · exact h before part

theorem Reachable.oneOut (h : Reachable limit w) (key : BucketKey) : OneOut key w.events := by
  induction h with
  | initial =>
    rintro before ⟨after, split⟩
    obtain ⟨rfl, -⟩ := List.append_eq_nil_iff.mp split
    exact Nat.zero_le _
  | @step v w before step ih =>
    have last := (Reachable.step before step).inTurn.length_posted_le
      (step.tokens before.tokens) key
    rw [Ledger.posted, Ledger.answered, Ledger.history, Ledger.history] at last
    cases step.noticed before.tokens with
    | silent news events silent =>
      rw [events]
      exact ih.append_silent silent
    | joined _ _ _ _ _ events | taken _ _ _ events | posted _ events | answered _ _ events =>
      rw [events] at last ⊢
      exact ih.append_singleton last

theorem Reachable.body_ne_nil (h : Reachable limit w) (pos : 0 < limit) {key : BucketKey}
    {batch : List Save} {request : Request} (mem : (batch, request) ∈ w.requestsOf key) :
    request.body ≠ [] := by
  obtain ⟨taken, body, hb, rfl⟩ := Ledger.mem_requestsOf mem
  obtain ⟨before, after, split⟩ := List.append_of_mem (mem_takenIn.mp taken)
  obtain ⟨some, -⟩ := h.takenInTurn pos before key batch after split
  obtain ⟨length, -⟩ := Ledger.getElem?_batchBody? hb
  intro empty
  exact some (List.length_eq_zero_iff.mp (length ▸ List.length_eq_zero_iff.mpr empty))

end Workload

theorem mem_requests {l : Ledger} {request : Request} (mem : request ∈ l.requests) :
    ∃ key batch, (batch, request) ∈ l.posted key := by
  obtain ⟨entry, he, picked⟩ := List.mem_filterMap.mp mem
  cases h : entry.event with
  | posted key batch other =>
    obtain rfl : other = request := by simpa [h] using picked
    refine ⟨key, batch, Ledger.mem_posted.mpr ?_⟩
    rw [← h]
    exact List.mem_map_of_mem he
  | _ => simp [h] at picked

/-- A bucket is in flight exactly while there is one cycle of it, and there are never two. A
bucket out of flight is empty, and the line of a bucket whose cycle has not started is not. Of all
requests of a bucket at most one is out, at any time, and no request is empty. -/
theorem ReachableInAnyOrder.one_cycle_in_flight {setup : Setup} {s : State}
    (h : ReachableInAnyOrder setup s) :
    (s.buckets.map Bucket.key).Nodup ∧
      (∀ b ∈ s.buckets, (b.inFlight = true ↔ s.cycleCount b.key = 1) ∧
        (b.inFlight = false → b.pending = [] ∧ b.held = []) ∧
        (.cycle b.key ∈ s.jobs ++ s.drained → b.pending ≠ [])) ∧
      (∀ key, s.cycleCount key ≤ 1 ∧ ((∀ b ∈ s.buckets, b.key ≠ key) → s.cycleCount key = 0)) ∧
      (∀ key before, before <+: s.events →
        (before.filterMap (Event.posted? key)).length ≤
          (before.filterMap (Event.answered? key)).length + 1) ∧
      (∀ request ∈ s.requests, request.body ≠ []) ∧
      ∀ key batch request, (batch, request) ∈ s.departing key → request.body ≠ [] := by
  have reachable := h.workload
  have tokens := reachable.tokens
  have count (key : BucketKey) := s.count_keys key
  have pos := setup.settings.batchLimit_pos
  refine ⟨Multiset.coe_nodup.mp tokens.keys, fun b hb => ⟨?_, ?_, ?_⟩, fun key => ⟨?_, ?_⟩,
    fun key => reachable.oneOut key, ?_, ?_⟩
  · rw [← count]
    exact tokens.inFlight_iff hb
  · exact tokens.idle b hb
  · intro unstarted
    exact tokens.filled b hb (s.mem_underway_of_unstarted unstarted)
  · rw [← count]
    exact tokens.count_le_one key
  · intro fresh
    rw [← count]
    apply tokens.count_eq_zero
    intro mem
    obtain ⟨b, hb, same⟩ := Multiset.mem_map.mp mem
    exact fresh b hb same
  · intro request mem
    obtain ⟨key, batch, posted⟩ := mem_requests mem
    exact reachable.body_ne_nil pos (show (batch, request) ∈ s.requestsOf key from
      h.posted_departing key ▸ List.mem_append_left _ posted)
  · intro key batch request departing
    exact reachable.body_ne_nil pos (show (batch, request) ∈ s.requestsOf key from
      h.posted_departing key ▸ List.mem_append_right _ departing)

/-- Between two batches a bucket is in flight, and its next cycle is in the queue. -/
theorem one_cycle_between_batches :
    let s := (Setup.echoing { batchSize := 1 }).after [⟨{}, true, 0, none⟩, ⟨{}, true, 0, none⟩] 5
    s.jobs = [.cycle (.ofSaveable {})] ∧
      ∃ b ∈ s.buckets, b.held ≠ [] ∧ s.cycleCount b.key = 1 ∧ b.pending ≠ [] := by
  intro s
  have queued : s.jobs = [.cycle (.ofSaveable {})] := by decide +kernel
  obtain ⟨b, hb, same, holds, flies⟩ : ∃ b ∈ s.buckets, b.key = .ofSaveable {} ∧ b.held ≠ [] ∧
      b.inFlight = true := by decide +kernel
  have reachable := (Setup.reachable_after _ _ _ : Reachable _ s).inAnyOrder
  obtain ⟨one, -, filled⟩ := reachable.one_cycle_in_flight.2.1 b hb
  refine ⟨queued, b, hb, holds, one.mp flies, filled ?_⟩
  rw [queued, same]
  exact List.mem_cons_self

end Writeback.Queue
