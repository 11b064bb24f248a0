import Writeback.Proofs.Queue.Actions
import Writeback.Proofs.Queue.Debounce
import Writeback.Proofs.Queue.Rest
import Writeback.Proofs.Queue.Settlement
import Writeback.Proofs.Queue.Throttle

/-!
# Every run comes to rest

Work is brought in by callers alone: an enqueue brings a bounded amount, a flush next to none, and
whatever the runtime does brings nothing. As every step leaves less, the steps of a run are bounded
by what its callers did, for any settings, transport and objects, and in any order.

What keeps cycles from going round forever is that a cycle takes a batch the moment it starts, and
that the batch is not empty. So a bucket has no more cycles than objects that joined it.
-/

namespace Writeback.Queue

/-! ### What actions bring -/

namespace Action

def isStep : Action → Bool
  | step => true
  | _ => false

/-- The most work that an action brings. -/
def work : Action → Nat
  | enqueue _ => 18
  | flush => 1
  | flushLater => 2
  | create _ | step | wait _ | reorder _ | elapse _ => 0

end Action

namespace State

variable {setup : Setup} {s t : State}

theorem work_ensureBucket (s : State) {bucket : Bucket} (empty : bucket.pending = []) :
    (s.ensureBucket bucket).work = s.work := by
  unfold ensureBucket
  split
  · rfl
  · simp [work_eq, empty]

theorem nodup_ensureBucket (nodup : (s.buckets.map Bucket.key).Nodup) (bucket : Bucket) :
    ((s.ensureBucket bucket).buckets.map Bucket.key).Nodup := by
  unfold ensureBucket
  split
  · exact nodup
  · next fresh =>
    have new : bucket.key ∉ s.buckets.map Bucket.key := bucket?_eq_none_iff.mp fresh
    rw [List.map_append, List.map_singleton]
    exact List.nodup_append_comm.mp (List.nodup_cons.mpr ⟨new, nodup⟩)

/-- A change of the bucket with a key is a change of one bucket. -/
theorem work_modifyBucket_le {f : Bucket → Bucket} {gain : Nat}
    (gains : ∀ b, 10 * (f b).pending.length ≤ 10 * b.pending.length + gain)
    (nodup : (s.buckets.map Bucket.key).Nodup) (key : BucketKey) :
    (s.modifyBucket key f).work ≤ s.work + gain := by
  have pending : (s.modifyBucket key f).pendingWork ≤ s.pendingWork + gain := by
    rw [pendingWork, pendingWork, modifyBucket]
    dsimp only
    generalize s.buckets = buckets at nodup
    induction buckets with
    | nil => exact Nat.zero_le _
    | cons b rest ih =>
      rw [List.map_cons, List.nodup_cons] at nodup
      rw [List.map_cons, List.map_cons, List.map_cons, List.sum_cons, List.sum_cons]
      split
      · next same =>
        subst same
        have others : ∀ c ∈ rest, c.key ≠ b.key := fun c mem same =>
          nodup.1 (same ▸ List.mem_map_of_mem mem)
        rw [map_modify_of_notMem others]
        have here := gains b
        omega
      · have tail := ih nodup.2
        omega
  have both := s.work_modifyBucket key f
  omega

theorem work_enqueue_le (nodup : (s.buckets.map Bucket.key).Nodup) (object : Nat) :
    (s.enqueue object).work ≤ s.work + 18 := by
  have asked : ({ s with handles := s.handles + 1 } : State).work = s.work := rfl
  unfold enqueue
  dsimp only
  split
  · generalize hr : (ensureBucket { s with handles := s.handles + 1 } _).onLedger _ = r
    have opened : r.work = s.work := by
      rw [← hr, work_onLedger, work_ensureBucket _ rfl, asked]
    have keys : (r.buckets.map Bucket.key).Nodup := by
      rw [← hr]
      exact nodup_ensureBucket (s := { s with handles := s.handles + 1 }) nodup _
    generalize hj : r.modifyBucket _ _ = joined
    have joins : joined.work ≤ r.work + 10 := by
      rw [← hj]
      refine work_modifyBucket_le (fun b => ?_) keys _
      simp only [Bucket.push, List.length_append, List.length_singleton]
      omega
    split
    · omega
    · rw [work_pushJob]
      omega
  · rw [work_pushJob, asked]
    omega

theorem work_perform?_le (nodup : (s.buckets.map Bucket.key).Nodup) {action : Action}
    (performed : s.perform? setup action = some t) :
    [action].countP Action.isStep + t.work ≤ s.work + action.work := by
  cases action with
  | create record =>
    cases performed
    exact (Nat.zero_add _).le
  | enqueue object =>
    obtain ⟨-, performed⟩ := Option.ite_none_right_eq_some.mp performed
    cases performed
    exact (Nat.zero_add _).le.trans (work_enqueue_le nodup object)
  | flush =>
    cases performed
    exact (Nat.zero_add _).le.trans (work_drain_le _ { s with
      drains := s.drains + 1, generation := s.generation + 1 })
  | flushLater =>
    cases performed
    rw [flushLater, work_spawn]
    exact (Nat.zero_add _).le
  | step => exact (Nat.add_comm _ _).le.trans (work_step?_lt performed)
  | wait time =>
    obtain ⟨-, performed⟩ := Option.ite_none_right_eq_some.mp performed
    cases performed
    exact (Nat.zero_add _).le
  | reorder tasks =>
    obtain ⟨perm, performed⟩ := Option.ite_none_right_eq_some.mp performed
    cases performed
    simp [work_eq, Action.isStep, Action.work, (perm.map Task.work).sum_eq]
  | elapse time =>
    obtain ⟨-, performed⟩ := Option.ite_none_right_eq_some.mp performed
    cases performed
    have shed := s.work_wakeAt time
    simp only [Action.isStep, Action.work, List.countP_singleton, Bool.false_eq_true, if_false]
    omega

end State

/-! ### Cycles that start -/

/-- What is written down in one turn, of starts in particular: a cycle that starts takes a batch at
once, and nothing else starts. -/
inductive Begun : List Event → Prop where
  | nothing {news : List Event} : (∀ e ∈ news, e.started? = none) → Begun news
  | update {news : List Event} (save : Save) : (∀ e ∈ news, e.started? = none) →
      Begun (.started (.update save) :: news)
  | cycle {news : List Event} (key : BucketKey) (batch : List Save) : batch ≠ [] →
      (∀ e ∈ news, e.started? = none) → Begun (.started (.cycle key) :: .taken key batch :: news)

namespace State

variable {setup : Setup} {s t : State}

/-- What a turn writes down. -/
def Begins (s t : State) : Prop := ∃ news, t.events = s.events ++ news ∧ Begun news

theorem begins_of_grows (grows : s.journal <:+ t.journal) (starts : t.starts = s.starts) :
    s.Begins t := by
  obtain ⟨news, events, none⟩ := Ledger.exists_news grows starts
  exact ⟨news, events, .nothing none⟩

theorem begins_of_journal (same : t.journal = s.journal) : s.Begins t := by
  refine begins_of_grows ⟨[], same.symm⟩ ?_
  rw [Ledger.starts, Ledger.timed, same]
  rfl

/-- A cycle finds its bucket with objects in it. -/
theorem begins_startCycle {id : Nat} {key : BucketKey}
    (h : Workload.Guarded (s.workload.plus (.waiting (.cycle key)))) :
    s.Begins (s.runStage setup id (.start (.cycle key))) := by
  generalize hr : s.onLedger (·.note (.started (.cycle key))) = r
  have started : r.events = s.events ++ [.started (.cycle key)] := by
    rw [← hr]
    exact Ledger.events_note _ _
  have guarded : Workload.Guarded (r.workload.plus (.waiting (.cycle key))) := by
    have noted : Workload.Steps setup.settings.batchLimit _ _ :=
      .single (.remark (s.workload.plus (.waiting (.cycle key))) (.started (.cycle key)) rfl)
    rw [← hr]
    exact Workload.Steps.guarded noted h
  obtain ⟨b, others, rfl, found, buckets, -⟩ :=
    exists_bucket_of_guarded guarded (Multiset.mem_singleton_self _)
  have filled : b.pending ≠ [] := by
    obtain ⟨lost, tokens⟩ := guarded
    exact tokens.filled b (by simp [Workload.plus, Workload.plusAll, buckets])
      (by simp [Workload.plus, Workload.plusAll])
  have ran : Ran id (.cycle b.key) _ (r.startCycle setup id b.key) :=
    .startCycle_of_bucket? setup found
  obtain ⟨news, events, none⟩ := Ledger.exists_news ran.grows ran.starts
  refine ⟨_, ?_, .cycle b.key (b.nextBatch setup.settings.batchLimit)
    (nextBatch_ne_nil setup.settings filled) none⟩
  have ended : s.runStage setup id (.start (.cycle b.key)) = r.startCycle setup id b.key := by
    rw [← hr]
    rfl
  have taken : (r.onLedger (·.note (.taken b.key (b.nextBatch setup.settings.batchLimit)))).events =
      r.events ++ [.taken b.key (b.nextBatch setup.settings.batchLimit)] := Ledger.events_note _ _
  rw [ended, events]
  change (r.onLedger (·.note (.taken b.key
    (b.nextBatch setup.settings.batchLimit)))).events ++ _ = _
  rw [taken, started, List.append_assoc, List.append_assoc]
  rfl

theorem begins_step? (h : Workload.Guarded s.workload) (step : s.step? setup = some t) :
    s.Begins t := by
  cases step?_effect step with
  | pushed pushed => exact begins_of_grows pushed.grows pushed.starts
  | passed | woke | flushesLater | counts => exact begins_of_journal rfl
  | flushed | flushes => exact begins_of_journal (congrArg Ledger.journal (drain_toLedger _ _))
  | @ended generation timer rest =>
    refine begins_of_journal ?_
    unfold endQuiet
    split
    · exact congrArg Ledger.journal (drain_toLedger _ _)
    · rfl
  | returned => exact begins_of_journal (congrArg Ledger.journal (release_toLedger _))
  | admitted => exact begins_of_journal (by rw [startJobs_eq]; rfl)
  | @ran id stage rest _ ready ran =>
    cases stage with
    | start job =>
      cases job with
      | cycle key =>
        simp only [step?, ready, Option.some.injEq] at step
        rw [workload_cons_ready ready, Task.phases, Workload.plusAll_singleton] at h
        rw [← step]
        exact begins_startCycle (s := s.pop rest) h
      | update save =>
        obtain ⟨news, events, none⟩ := Ledger.exists_news ran.grows ran.starts
        refine ⟨_, events.trans ?_, .update save none⟩
        rw [noteStart, onLedger, Ledger.events_note, List.append_assoc]
        rfl
    | depart | arrive | saved => exact begins_of_grows ran.grows ran.starts

theorem begins_turn (h : Workload.Guarded s.workload) (turn : Turn setup s t) : s.Begins t := by
  cases turn with
  | move move =>
    cases move with
    | create | flushLater | wait => exact begins_of_journal rfl
    | enqueue object =>
      obtain ⟨jobs, pushed, -⟩ := Pushed.enqueue s object
      exact begins_of_grows pushed.grows pushed.starts
    | flush => exact begins_of_journal (congrArg Ledger.journal (drain_toLedger _ _))
    | step _ step => exact begins_step? h step
  | reorder | elapse => exact begins_of_journal rfl

end State

/-- Every cycle that starts takes a batch at once, which is not empty. -/
def TakesAtOnce (events : List Event) : Prop :=
  ∀ before key after, events = before ++ .started (.cycle key) :: after →
    ∃ batch rest, after = .taken key batch :: rest ∧ batch ≠ []

/-- One turn starts at most one cycle, in front of all else that it writes down. -/
theorem Begun.takes {news before after : List Event} {key : BucketKey} (begun : Begun news)
    (split : news = before ++ .started (.cycle key) :: after) :
    ∃ batch rest, after = .taken key batch :: rest ∧ batch ≠ [] := by
  have silent {rest before : List Event} (none : ∀ e ∈ rest, e.started? = none)
      (split : rest = before ++ .started (.cycle key) :: after) : False := by
    have pick := none _ (split ▸ List.mem_append_right _ List.mem_cons_self)
    cases pick
  cases begun with
  | nothing none => exact (silent none split).elim
  | update save none =>
    rcases List.cons_eq_append_iff.mp split with ⟨-, clash⟩ | ⟨before, -, split⟩
    · cases clash
    · exact (silent none split).elim
  | cycle other batch some none =>
    rcases List.cons_eq_append_iff.mp split with ⟨-, same⟩ | ⟨before, -, split⟩
    · cases same
      exact ⟨batch, _, rfl, some⟩
    · rcases List.cons_eq_append_iff.mp split with ⟨-, clash⟩ | ⟨before, -, split⟩
      · cases clash
      · exact (silent none split).elim

theorem TakesAtOnce.append {events news : List Event} (h : TakesAtOnce events)
    (begun : Begun news) : TakesAtOnce (events ++ news) := by
  intro before key after split
  rcases split_append split with ⟨rest, old⟩ | ⟨first, -, new⟩
  · obtain ⟨batch, tail, rfl, some⟩ := h before key rest old
    rw [old, List.append_assoc] at split
    have same := (List.cons.inj (List.append_cancel_left split)).2
    exact ⟨batch, tail ++ news, same.symm, some⟩
  · exact begun.takes new

theorem Begun.count_le {news : List Event} (begun : Begun news) (key : BucketKey) :
    (news.filterMap Event.started?).count (.cycle key) ≤ (takenIn key news).length := by
  cases begun with
  | nothing none =>
    rw [List.filterMap_eq_nil_iff.mpr none]
    exact Nat.zero_le _
  | update save none =>
    rw [List.filterMap_cons, List.filterMap_eq_nil_iff.mpr none]
    simp [Event.started?]
  | cycle other batch some none =>
    rw [List.filterMap_cons, List.filterMap_cons, List.filterMap_eq_nil_iff.mpr none]
    by_cases same : other = key <;>
      simp [Event.started?, takenIn, Event.taken?, same, List.filterMap_cons]

/-- A bucket whose next cycle has not started has something in line. -/
theorem Workload.InLine.length_taken_lt {w : Workload} {key : BucketKey} (h : InLine w)
    (tokens : Tokens w) (waiting : .waiting (.cycle key) ∈ w.underway) :
    (takenIn key w.events).flatten.length < (joinedIn key w.events).length := by
  obtain ⟨b, hb, -, rfl⟩ := tokens.exists_bucket waiting (Multiset.mem_singleton_self key)
  have some := List.length_pos_iff.mpr (tokens.filled b hb waiting)
  have line : (takenIn b.key w.events).flatten ++ b.pending = joinedIn b.key w.events :=
    h.line b.line (Multiset.mem_map_of_mem _ hb)
  rw [← line, List.length_append]
  omega

namespace ReachableInAnyOrder

variable {setup : Setup} {s : State}

theorem takesAtOnce (h : ReachableInAnyOrder setup s) : TakesAtOnce s.events := by
  refine h.induction (P := fun s => TakesAtOnce s.events) ?_ ?_
  · intro before key after split
    simp [State.initial, Ledger.events] at split
  · intro s t reachable turn ih
    obtain ⟨news, events, begun⟩ := State.begins_turn reachable.workload.tokens.guarded turn
    rw [events]
    exact ih.append begun

/-- Every cycle that started took a batch. -/
theorem count_starts_le (h : ReachableInAnyOrder setup s) (key : BucketKey) :
    (s.starts.map Prod.snd).count (.cycle key) ≤ (takenIn key s.events).length := by
  rw [Ledger.starts, Ledger.map_snd_timed, Ledger.history]
  refine h.induction (P := fun s => (s.events.filterMap Event.started?).count (.cycle key) ≤
    (takenIn key s.events).length) (Nat.zero_le _) ?_
  intro s t reachable turn ih
  obtain ⟨news, events, begun⟩ := State.begins_turn reachable.workload.tokens.guarded turn
  have more := begun.count_le key
  rw [events, List.filterMap_append, List.count_append, takenIn_append,
    List.length_append]
  omega

/-- A bucket has no more cycles than objects that joined it, those counted that were pushed and have
not started. -/
theorem count_pushes_le (h : ReachableInAnyOrder setup s) (key : BucketKey) :
    (s.starts.map Prod.snd).count (.cycle key) ≤ (s.pushes.map Prod.snd).count (.cycle key) ∧
      (s.pushes.map Prod.snd).count (.cycle key) ≤ (joinedIn key s.events).length := by
  have reachable := h.workload
  have pos := setup.settings.batchLimit_pos
  have filled : ∀ batch ∈ takenIn key s.events, 1 ≤ batch.length := by
    intro batch mem
    obtain ⟨before, after, split⟩ := List.append_of_mem (mem_takenIn.mp mem)
    exact List.length_pos_iff.mpr (reachable.takenInTurn pos before key batch after split).1
  have batches : (takenIn key s.events).length ≤ (takenIn key s.events).flatten.length := by
    have sum := List.length_le_sum_of_one_le ((takenIn key s.events).map List.length)
      (List.forall_mem_map.mpr filled)
    rwa [List.length_map, ← List.length_flatten] at sum
  have started := h.count_starts_le key
  have joined : (takenIn key s.events).flatten.length ≤ (joinedIn key s.events).length :=
    (reachable.inLine.taken_prefix key).length_le
  have pushed := h.pushes_perm.count_eq (.cycle key)
  have one : s.cycleCount key ≤ 1 := s.count_keys key ▸ reachable.tokens.count_le_one key
  rw [State.cycleCount] at one
  rw [List.count_append, List.count_append] at pushed
  refine ⟨by omega, ?_⟩
  by_cases unstarted : .cycle key ∈ s.jobs ++ s.drained
  · have more : (takenIn key s.events).flatten.length < (joinedIn key s.events).length :=
      reachable.inLine.length_taken_lt reachable.tokens (s.mem_underway_of_unstarted unstarted)
    omega
  · have none := List.count_eq_zero_of_not_mem unstarted
    rw [List.count_append] at none
    omega

end ReachableInAnyOrder

/-! ### Jobs and timers -/

namespace State

variable {setup : Setup} {s t : State}

/-- Between the two states these jobs were pushed, and no more timers were started than jobs. -/
structure Pushes (setup : Setup) (s : State) (jobs : List Job) (t : State) : Prop where
  pushes : t.pushes = s.pushes ++ jobs.map fun job => (s.clock, job)
  alarms : (t.alarms setup.settings.delay).length ≤
    (s.alarms setup.settings.delay).length + jobs.length

namespace Pushes

theorem of_pushed {jobs : List Job} (pushed : Pushed s jobs t) : Pushes setup s jobs t where
  pushes := pushed.pushes
  alarms := by
    have all : (t.alarms setup.settings.delay).length = _ := (alarms_pushed pushed).length_eq
    rw [List.length_append, List.length_map, List.length_range'] at all
    exact all.le

theorem of_alarms (pushes : t.pushes = s.pushes)
    (alarms : (t.alarms setup.settings.delay).length ≤ (s.alarms setup.settings.delay).length) :
    Pushes setup s [] t :=
  ⟨pushes.trans (List.append_nil _).symm, alarms⟩

/-- A task that runs takes its place off the list. -/
theorem of_pop {task : Task} {rest : List Task} {jobs : List Job}
    (ready : s.ready = task :: rest) (h : Pushes setup (s.pop rest) jobs t) :
    Pushes setup s jobs t where
  pushes := h.pushes
  alarms := by
    have fewer := h.alarms
    rw [alarms_pop ready, List.length_append]
    omega

theorem of_ran {id : Nat} {job : Job} (ran : Ran id job s t) :
    ∃ jobs, Pushes setup s jobs t ∧ jobs.Sublist job.next ∧ t.jobs = s.jobs ++ jobs := by
  cases ran with
  | sleeps inFlight peak duration next pushed =>
    refine ⟨[], of_alarms ?_ ?_, List.nil_sublist _, pushed.jobs⟩
    · exact pushed.pushes.trans (List.append_nil _)
    · rw [alarms_sleep fun _ => rfl]
      exact (of_pushed pushed).alarms
  | @ends jobs u inFlight peak pushed next =>
    refine ⟨jobs, ⟨?_, ?_⟩, next, (release_jobs _).trans pushed.jobs⟩
    · rw [release_toLedger]
      exact pushed.pushes
    · rw [alarms_release]
      exact (of_pushed pushed).alarms

theorem of_noteStart {stage : Stage} {jobs : List Job}
    (h : Pushes setup (s.noteStart stage) jobs t) : Pushes setup s jobs t where
  pushes := by simpa using h.pushes
  alarms := by
    have same : (s.noteStart stage).alarms setup.settings.delay =
        s.alarms setup.settings.delay := by simp [State.alarms]
    exact same ▸ h.alarms

end Pushes

theorem pushes_drain (id : Nat) : Pushes setup s [] (drain id s) :=
  .of_alarms (congrArg Ledger.pushes (drain_toLedger id s)) (by rw [alarms_drain])

theorem pushes_endQuiet (generation : Nat) : Pushes setup s [] (s.endQuiet generation) := by
  unfold endQuiet
  split
  · have drained : Pushes setup { s with drains := s.drains + 1 } [] _ := pushes_drain s.drains
    exact ⟨drained.pushes, drained.alarms⟩
  · exact .of_alarms rfl (Nat.le_refl _)

theorem pushes_startFlush (id : Nat) : Pushes setup s [] (s.startFlush id) := by
  have drained : Pushes setup { s with generation := s.generation + 1 } [] _ := pushes_drain id
  exact ⟨drained.pushes, drained.alarms⟩

theorem pushes_flush : Pushes setup s [] s.flush := by
  have flushed : Pushes setup { s with drains := s.drains + 1 } [] _ := pushes_startFlush s.drains
  exact ⟨flushed.pushes, flushed.alarms⟩

/-- Who pushed jobs in a turn: a caller, or a cycle that ended. -/
inductive PushedBy (setup : Setup) (s t : State) : List Job → Prop where
  | nobody : PushedBy setup s t []
  | enqueue (object : Nat) (job : Job) : t = s.enqueue object → PushedBy setup s t [job]
  | cycle {id : Nat} {stage : Stage} {rest : List Task} (key : BucketKey) :
      s.step? setup = some t → s.ready = .job id stage :: rest → stage.job = .cycle key →
      (∀ cycle ∈ t.running, cycle.key ≠ key) → PushedBy setup s t [.cycle key]

/-- While a cycle of a bucket is in the queue, none runs. -/
theorem key_ne_of_queued {key : BucketKey} (one : s.cycleCount key ≤ 1)
    (queued : .cycle key ∈ s.jobs) : ∀ cycle ∈ s.running, cycle.key ≠ key := by
  have some := List.count_pos_iff.mpr queued
  have none : s.running.countP (fun cycle => cycle.key = key) = 0 := by
    rw [cycleCount] at one
    omega
  simpa using List.countP_eq_zero.mp none

theorem pushedBy_step? (h : ∀ key, t.cycleCount key ≤ 1) (step : s.step? setup = some t) :
    ∃ jobs, Pushes setup s jobs t ∧ PushedBy setup s t jobs := by
  have whole := step
  unfold step? at step
  split at step
  · next task rest ready =>
    cases step
    match task with
    | .countdown generation =>
      refine ⟨[], ?_, .nobody⟩
      simp only [runTask, sleepThen]
      split
      · exact (pushes_endQuiet generation).of_pop ready
      · refine .of_alarms rfl ?_
        simp [alarms, sleep, ready, Task.alarm?]
        omega
    | .due generation => exact ⟨[], (pushes_endQuiet generation).of_pop ready, .nobody⟩
    | .flush id => exact ⟨[], (pushes_startFlush id).of_pop ready, .nobody⟩
    | .admitted ⟨id, []⟩ =>
      refine ⟨[], .of_pop ready (.of_alarms ?_ ?_), .nobody⟩
      · exact congrArg Ledger.pushes (release_toLedger _)
      · exact (congrArg List.length alarms_release).le
    | .admitted ⟨id, job :: jobs⟩ =>
      refine ⟨[], .of_pop ready (.of_alarms ?_ ?_), .nobody⟩
      · rw [runTask, startJobs_eq]
        rfl
      · rw [runTask, alarms_startJobs, alarms_spawn fun _ => rfl]
        exact Nat.le_refl _
    | .job id stage =>
      obtain ⟨jobs, pushes, next, queued⟩ :=
        Pushes.of_ran (runStage_ran setup id stage (s.pop rest))
      refine ⟨jobs, pushes.of_noteStart.of_pop ready, ?_⟩
      rw [noteStart_jobs] at queued
      cases job : stage.job with
      | update save =>
        rw [job] at next
        rw [List.sublist_nil.mp next]
        exact .nobody
      | cycle key =>
        rw [job] at next
        rcases List.sublist_singleton.mp next with rfl | rfl
        · exact .nobody
        · have there : .cycle key ∈ (runStage setup id stage (s.pop rest)).jobs :=
            queued ▸ List.mem_append_right _ List.mem_cons_self
          exact .cycle key whole ready job (key_ne_of_queued (h key) there)
  · next ready =>
    obtain ⟨time, next, rfl⟩ := Option.map_eq_some_iff.mp step
    have first : ∀ p ∈ s.sleeping, time ≤ p.due := fun p asleep =>
      (List.min?_eq_some_iff.mp next).2 p.due (List.mem_map_of_mem asleep)
    have same : ((s.wakeAt time).alarms setup.settings.delay).length = _ :=
      (alarms_wakeAt_of_le ready first).length_eq
    exact ⟨[], .of_alarms rfl same.le, .nobody⟩

theorem pushedBy_turn (h : ∀ key, t.cycleCount key ≤ 1) (turn : Turn setup s t) :
    ∃ jobs, Pushes setup s jobs t ∧ PushedBy setup s t jobs := by
  cases turn with
  | move move =>
    cases move with
    | create => exact ⟨[], .of_alarms rfl (Nat.le_refl _), .nobody⟩
    | enqueue object =>
      obtain ⟨jobs, pushed, most⟩ := Pushed.enqueue s object
      refine ⟨jobs, .of_pushed pushed, ?_⟩
      rcases Nat.le_one_iff_eq_zero_or_eq_one.mp most with none | one
      · rw [List.length_eq_zero_iff.mp none]
        exact .nobody
      · obtain ⟨job, rfl⟩ := List.length_eq_one_iff.mp one
        exact .enqueue object job rfl
    | flush => exact ⟨[], pushes_flush, .nobody⟩
    | flushLater =>
      refine ⟨[], .of_alarms rfl ?_, .nobody⟩
      rw [flushLater, alarms_spawn fun _ => rfl]
      exact Nat.le_refl _
    | step _ step => exact pushedBy_step? h step
    | wait time ready =>
      refine ⟨[], .of_alarms rfl ?_, .nobody⟩
      simp [alarms, ready, onLedger]
  | reorder tasks perm =>
    refine ⟨[], .of_alarms rfl ?_, .nobody⟩
    exact ((perm.filterMap _).append_right _).length_eq.le
  | elapse time later =>
    obtain ⟨alarms, perm, late⟩ := alarms_late later
    exact ⟨[], .of_alarms rfl (perm.length_eq.trans late.length_eq.symm).le, .nobody⟩

end State

/-! ### Runs -/

/-- Nothing is left to do: there is no task, so no timer either, no request is out, no job is in the
queue or with a drain, and every save has ended. -/
structure State.AtRest (s : State) : Prop where
  tasks : s.tasks = []
  inFlight : s.inFlight = 0
  jobs : s.jobs = []
  waiting : s.waiting = []
  ended : ∀ handle < s.handles, (s.result? handle).isSome = true

theorem ReachableInAnyOrder.atRest {setup : Setup} {s : State} (h : ReachableInAnyOrder setup s)
    (quiescent : s.Quiescent) : s.AtRest := by
  have none : s.tasks = [] := quiescent.tasks
  have counted : s.inFlight = s.tasks.countP Task.isSent := h.state_throttled.counted
  obtain ⟨jobs, waiting, idle, -⟩ := h.of_quiescent quiescent
  refine ⟨none, by rw [counted, none]; rfl, jobs, waiting, fun handle given => ?_⟩
  exact Ledger.result?_isSome_iff.mpr (h.workload.ended_of_underway_eq_zero idle given)

namespace Setup

variable {setup : Setup}

/-- The steps taken and the work that is left are at most what the actions brought. -/
theorem steps_add_work_le {actions : List Action} {s : State} (run : setup.run? actions = some s) :
    actions.countP Action.isStep + s.work ≤ (actions.map Action.work).sum := by
  let Paid (actions : List Action) (s : State) : Prop :=
    actions.countP Action.isStep + s.work ≤ (actions.map Action.work).sum
  have nothing : Paid [] (.initial setup.settings) := by simp [Paid, State.initial, State.work_eq]
  refine run?_induction (P := Paid) nothing ?_ run
  intro actions s action t before paid performed
  have reachable : ReachableInAnyOrder setup s := reachable_iff.mpr ⟨actions, before⟩
  have nodup := Multiset.coe_nodup.mp reachable.workload.tokens.keys
  have more := State.work_perform?_le nodup performed
  simp only [Paid, List.countP_append, List.map_append, List.map_singleton, List.sum_append,
    List.sum_singleton] at paid more ⊢
  omega

/-- Letting the machine run is taking steps. -/
theorem exists_steps (finished : State → Bool) (fuel : Nat) {actions : List Action} {s : State}
    (run : setup.run? actions = some s) :
    ∃ steps ≤ fuel, setup.run? (actions ++ List.replicate steps .step) =
      some (s.runSteps setup finished fuel) := by
  induction fuel generalizing actions s with
  | zero => exact ⟨0, Nat.le_refl _, by rw [List.replicate_zero, List.append_nil, run]; rfl⟩
  | succ fuel ih =>
    unfold State.runSteps
    split
    · exact ⟨0, Nat.zero_le _, by rw [List.replicate_zero, List.append_nil, run]⟩
    · split
      · next t step =>
        have next : setup.run? (actions ++ [.step]) = some t := by
          rw [run?_concat, run, Option.bind_some]
          exact step
        obtain ⟨steps, few, last⟩ := ih next
        refine ⟨steps + 1, Nat.succ_le_succ few, ?_⟩
        rwa [List.replicate_succ, ← List.singleton_append, ← List.append_assoc]
      · exact ⟨0, Nat.zero_le _, by rw [List.replicate_zero, List.append_nil, run]⟩

/-- Every run comes to rest. For all settings, transports, hooks and direct saves: the steps of a
run are bounded by what its callers did, in whatever order and at whatever times; at most as many
more steps as there is work lead to rest, and only at rest is no step left; a cycle takes a batch
the moment it starts, which is not empty, so a bucket has no more cycles than objects that joined
it; and a job is pushed, and a timer started, by an enqueue or by a cycle that ends alone. -/
theorem comes_to_rest {actions : List Action} {s : State} (run : setup.run? actions = some s) :
    actions.countP Action.isStep + s.work ≤ (actions.map Action.work).sum ∧
      (∃ steps ≤ s.work, ∃ t, setup.run? (actions ++ List.replicate steps .step) = some t ∧
        t.AtRest) ∧
      (s.step? setup = none ↔ s.AtRest) ∧
      TakesAtOnce s.events ∧
      (∀ key, (s.starts.map Prod.snd).count (.cycle key) ≤
          (s.pushes.map Prod.snd).count (.cycle key) ∧
        (s.pushes.map Prod.snd).count (.cycle key) ≤ (joinedIn key s.events).length) ∧
      ∀ t, Turn setup s t →
        ∃ jobs, State.Pushes setup s jobs t ∧ State.PushedBy setup s t jobs := by
  have reachable : ReachableInAnyOrder setup s := reachable_iff.mpr ⟨actions, run⟩
  refine ⟨steps_add_work_le run, ?_, ?_, reachable.takesAtOnce, reachable.count_pushes_le, ?_⟩
  · obtain ⟨steps, few, last⟩ := exists_steps (fun _ => false) s.work run
    have rested : ReachableInAnyOrder setup (s.runUntil setup fun _ => false) :=
      reachable_iff.mpr ⟨_, last⟩
    exact ⟨steps, few, _, last, rested.atRest (State.quiescent_runUntil setup s)⟩
  · rw [State.step?_eq_none_iff]
    exact ⟨reachable.atRest, fun rest => List.append_eq_nil_iff.mp rest.tasks |>.imp_right
      List.map_eq_nil_iff.mp⟩
  · intro t turn
    have tokens := (reachable.turn turn).workload.tokens
    exact State.pushedBy_turn (fun key => t.count_keys key ▸ tokens.count_le_one key) turn

/-- One object to a batch and one permit, although both were set to none; a hook that crashes, a
transport that fails, and a direct save. -/
theorem comes_to_rest_with_least_settings :
    let setup : Setup :=
      { settings := { batchSize := 0, maxInstances := 0 }
        transport := .scripted { latency := 5, failing := ["people"] } }
    let actions : List Action :=
      [.create ⟨{ hook := fun _ => .crashed }, true, 0, none⟩, .enqueue 0,
        .create ⟨{}, true, 0, none⟩, .enqueue 1, .flushLater, .step,
        .create ⟨{ model := ⟨"person", "people", "Person"⟩ }, true, 0, none⟩, .enqueue 2,
        .create ⟨{ saveTime := 3 }, false, 0, none⟩, .enqueue 3, .elapse 200]
    ∃ s, setup.run? actions = some s ∧ actions.countP Action.isStep + s.work ≤ 74 ∧
      ∃ steps ≤ s.work, ∃ t, setup.run? (actions ++ List.replicate steps .step) = some t ∧
        t.AtRest := by
  intro setup actions
  have possible : (setup.run? actions).isSome = true := by decide +kernel
  obtain ⟨s, run⟩ := Option.isSome_iff_exists.mp possible
  obtain ⟨paid, rests, -⟩ := Setup.comes_to_rest run
  exact ⟨s, run, paid, rests⟩

end Setup

end Writeback.Queue
