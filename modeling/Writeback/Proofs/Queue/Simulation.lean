import Mathlib.Logic.Relation
import Mathlib.Tactic.Abel
import Writeback.Proofs.Queue.Tokens
import Writeback.Queue.Reachable

/-!
# The queue as a workload

`State.workload` forgets the schedule of a queue. Permits, lines, quiet periods and sleepers move
jobs about and leave the workload alone; what a job does is a few steps of the workload, with the
phase of the job that runs taken out of the state and put beside it. So every move of the queue is
a sequence of steps, and the workloads of reachable states are reachable.
-/

namespace Writeback.Queue

/-- The phase of a job with a permit. -/
def Stage.phase : Stage → Phase
  | .start job => .waiting job
  | .depart cycle => .leaving cycle
  | .arrive cycle => .sent cycle
  | .saved save _ => .saving save

/-- The phases of the jobs that a task carries. -/
def Task.phases : Task → Multiset Phase
  | .countdown _ | .due _ | .flush _ => 0
  | .admitted drain => ↑(drain.jobs.map Phase.waiting)
  | .job _ stage => {stage.phase}

namespace Workload

def plus (w : Workload) (p : Phase) : Workload := { w with underway := p ::ₘ w.underway }

def plusAll (w : Workload) (ps : Multiset Phase) : Workload :=
  { w with underway := ps + w.underway }

@[simp] theorem plusAll_zero (w : Workload) : w.plusAll 0 = w := by simp [plusAll]

@[simp] theorem plusAll_singleton (w : Workload) (p : Phase) : w.plusAll {p} = w.plus p := by
  simp [plusAll, plus]

@[simp] theorem plusAll_plusAll (w : Workload) (ps qs : Multiset Phase) :
    (w.plusAll ps).plusAll qs = w.plusAll (qs + ps) := by
  simp [plusAll, add_assoc]

theorem Step.into_plusAll {limit : Nat} {u v w : Workload} {q : Phase} {rest ps : Multiset Phase}
    (step : Step limit u v) (hu : w.underway = q ::ₘ rest)
    (same : v = { w with underway := q ::ₘ (ps + rest) }) : Step limit u (w.plusAll ps) := by
  rw [Workload.plusAll, hu, Multiset.add_cons, ← same]
  exact step

/-- A step may be taken whatever else is under way. -/
theorem Step.plusAll {limit : Nat} {v w : Workload} (step : Step limit v w)
    (ps : Multiset Phase) : Step limit (v.plusAll ps) (w.plusAll ps) := by
  -- The other phases join those that the step leaves alone.
  have joins {p : Phase} {rest : Multiset Phase} (hu : v.underway = p ::ₘ rest) :
      (v.plusAll ps).underway = p ::ₘ (ps + rest) := by
    rw [Workload.plusAll, hu, Multiset.add_cons]
  cases step with
  | pass time => exact .pass (v.plusAll ps) time
  | create record => exact .create (v.plusAll ps) record
  | remark event remark => exact .remark (v.plusAll ps) event remark
  | ask object known existing =>
    exact (Step.ask (v.plusAll ps) object known existing).into_plusAll rfl rfl
  | joinFirst object known new fresh =>
    exact (Step.joinFirst (v.plusAll ps) object known new fresh).into_plusAll rfl rfl
  | joinIdle object b known new same hb idle =>
    have step : Step limit (v.plusAll ps) _ := .joinIdle object b known new same hb idle
    exact step.into_plusAll rfl rfl
  | joinBusy object b known new same hb busy =>
    exact .joinBusy (w := v.plusAll ps) object b known new same hb busy
  | take b body timer hu hb some made =>
    have step : Step limit (v.plusAll ps) _ := .take b body timer (joins hu) hb some made
    exact step.into_plusAll rfl rfl
  | spoil b hu hb some crashes =>
    have step : Step limit (v.plusAll ps) _ := .spoil b (joins hu) hb some crashes
    exact step.into_plusAll rfl rfl
  | post cycle hu => exact (Step.post cycle (joins hu)).into_plusAll rfl rfl
  | answer cycle answer hu =>
    exact (Step.answer cycle answer (joins hu)).into_plusAll rfl rfl
  | crash cycle hu => exact (Step.crash cycle (joins hu)).into_plusAll rfl rfl
  | refuse cycle cause hu =>
    exact (Step.refuse cycle cause (joins hu)).into_plusAll rfl rfl
  | defer cycle value task hu field =>
    exact (Step.defer cycle value task (joins hu) field).into_plusAll rfl rfl
  | hold cycle value hu field =>
    exact (Step.hold cycle value (joins hu) field).into_plusAll rfl rfl
  | closeNext b response hu hb more =>
    have step : Step limit (v.plusAll ps) _ := .closeNext b response (joins hu) hb more
    exact step.into_plusAll rfl rfl
  | closeLast b response hu hb empty => exact .closeLast b response (joins hu) hb empty
  | abortNext b batch hu hb more =>
    have step : Step limit (v.plusAll ps) _ := .abortNext b batch (joins hu) hb more
    exact step.into_plusAll rfl rfl
  | abortLast b batch hu hb empty => exact .abortLast b batch (joins hu) hb empty
  | begin save hu => exact (Step.begin save (joins hu)).into_plusAll rfl rfl
  | comeBack save hu => exact (Step.comeBack save (joins hu)).into_plusAll rfl rfl
  | finish save reply hu => exact .finish save reply (joins hu)

abbrev Steps (limit : Nat) : Workload → Workload → Prop := Relation.ReflTransGen (Step limit)

theorem Steps.plusAll {limit : Nat} {v w : Workload} (steps : Steps limit v w)
    (ps : Multiset Phase) : Steps limit (v.plusAll ps) (w.plusAll ps) := by
  induction steps with
  | refl => exact .refl
  | tail _ step ih => exact ih.tail (step.plusAll ps)

theorem Steps.tokens {limit : Nat} {v w : Workload} (steps : Steps limit v w) (h : Tokens v) :
    Tokens w := by
  induction steps with
  | refl => exact h
  | tail _ step ih => exact step.tokens ih

/-- The buckets in flight are those that some job is a cycle of: one under way, or one that will
never be under way again. -/
def Guarded (w : Workload) : Prop := ∃ lost, Tokens (w.plusAll lost)

theorem Tokens.guarded {w : Workload} (h : Tokens w) : Guarded w := ⟨0, by rwa [plusAll_zero]⟩

theorem Steps.guarded {limit : Nat} {v w : Workload} (steps : Steps limit v w) (h : Guarded v) :
    Guarded w := by
  obtain ⟨lost, tokens⟩ := h
  exact ⟨lost, (steps.plusAll lost).tokens tokens⟩

theorem Reachable.steps {limit : Nat} {v w : Workload} (h : Reachable limit v)
    (steps : Steps limit v w) : Reachable limit w := by
  induction steps with
  | refl => exact h
  | tail _ step ih => exact .step ih step

end Workload

open Workload

namespace State

/-- The phases of all jobs, wherever they stand. -/
def underway (s : State) : Multiset Phase :=
  ↑(s.jobs.map Phase.waiting) + ↑(s.waiting.flatMap fun d => d.jobs.map Phase.waiting) +
    (↑s.ready : Multiset Task).bind Task.phases +
    (↑s.sleeping : Multiset Sleeper).bind fun p => p.task.phases

/-- Jobs that have not started stand in the queue, in line or with a task; all others are with
tasks. -/
theorem bind_underway {α : Type} (s : State) (f : Phase → Multiset α) :
    s.underway.bind f =
      (↑(s.jobs ++ s.waiting.flatMap Drain.jobs) : Multiset Job).bind
          (fun job => f (.waiting job)) +
        (↑s.tasks : Multiset Task).bind fun task => task.phases.bind f := by
  have drains : s.waiting.flatMap (fun d => d.jobs.map Phase.waiting) =
      (s.waiting.flatMap Drain.jobs).map Phase.waiting := by
    rw [List.map_flatMap]
  rw [underway, drains]
  simp only [tasks, ← Multiset.coe_add, ← Multiset.map_coe, Multiset.add_bind, Multiset.bind_map,
    Multiset.bind_assoc, add_assoc]

/-- The queue without its schedule. -/
def workload (s : State) : Workload where
  toLedger := s.toLedger
  underway := s.underway
  buckets := ↑s.buckets
  handles := s.handles

@[simp] theorem workload_onLedger (s : State) (f : Ledger → Ledger) :
    (s.onLedger f).workload = s.workload.onLedger f := rfl

@[simp] theorem workload_spawn (s : State) (task : Task) :
    (s.spawn task).workload = s.workload.plusAll task.phases := by
  simp only [workload, spawn, underway, plusAll, ← Multiset.coe_add, Multiset.add_bind,
    Multiset.coe_singleton, Multiset.singleton_bind, Workload.mk.injEq, true_and, and_true]
  abel

@[simp] theorem workload_sleep (s : State) (duration : Nat) (task : Task) :
    (s.sleep duration task).workload = s.workload.plusAll task.phases := by
  simp only [workload, sleep, underway, plusAll, ← Multiset.coe_add, Multiset.add_bind,
    Multiset.coe_singleton, Multiset.singleton_bind, Workload.mk.injEq, true_and, and_true]
  abel

@[simp] theorem workload_pushJob (s : State) (job : Job) :
    (s.pushJob job).workload =
      (s.workload.plus (.waiting job)).onLedger (·.note (.queued job)) := by
  simp only [pushJob, workload_spawn, Task.phases, plusAll_zero, workload_onLedger]
  simp only [workload, underway, plus, Workload.onLedger, List.map_append, List.map_singleton,
    ← Multiset.coe_add, Multiset.coe_singleton, Workload.mk.injEq, true_and, and_true,
    ← Multiset.singleton_add]
  abel

/-- A permit given back goes on to the drain that waits longest, with its jobs. -/
@[simp] theorem workload_release (s : State) : s.release.workload = s.workload := by
  unfold release
  split
  · rfl
  · next drain rest hw =>
    rw [workload_spawn]
    simp only [workload, underway, plusAll, Task.phases, hw, List.flatMap_cons,
      ← Multiset.coe_add, Workload.mk.injEq, true_and, and_true]
    abel

@[simp] theorem workload_startJobs (id : Nat) (jobs : List Job) (s : State) :
    (startJobs id jobs s).workload = s.workload.plusAll ↑(jobs.map Phase.waiting) := by
  induction jobs generalizing s with
  | nil => exact (plusAll_zero _).symm
  | cons job rest ih =>
    unfold startJobs
    split
    · rw [ih, workload_spawn]
      simp only [workload, underway, plusAll, Task.phases, Stage.phase, List.map_cons,
        ← Multiset.cons_coe, ← Multiset.singleton_add, Workload.mk.injEq, true_and, and_true]
      abel
    · simp only [workload, underway, plusAll, List.flatMap_append, List.flatMap_cons,
        List.flatMap_nil, List.append_nil, ← Multiset.coe_add, Workload.mk.injEq, true_and,
        and_true]
      abel

@[simp] theorem workload_drain (id : Nat) (s : State) : (drain id s).workload = s.workload := by
  unfold drain
  rw [workload_startJobs]
  simp only [workload, underway, plusAll, List.map_nil, Multiset.coe_nil, Workload.mk.injEq,
    true_and, and_true]
  abel

/-- Sleepers that are due wake with the jobs that they carry. -/
@[simp] theorem workload_wakeAt (s : State) (time : Nat) :
    (s.wakeAt time).workload = { s.workload with clock := time } := by
  have parts : (↑s.sleeping : Multiset Sleeper) =
      ↑(s.sleeping.filter fun p => p.due ≤ time) + ↑(s.sleeping.filter fun p => !(p.due ≤ time)) :=
    (Multiset.coe_eq_coe.mpr (List.filter_append_perm _ _)).symm
  simp only [workload, wakeAt, underway, parts, ← Multiset.coe_add, Multiset.add_bind,
    ← Multiset.map_coe, Multiset.bind_map, Workload.mk.injEq, true_and, and_true]
  abel

theorem bucket?_eq_none_iff {s : State} {key : BucketKey} :
    s.bucket? key = none ↔ key ∉ s.workload.buckets.map Bucket.key := by
  simp [bucket?, workload, List.find?_eq_none]

theorem key_of_bucket? {s : State} {key : BucketKey} {b : Bucket} (h : s.bucket? key = some b) :
    b.key = key := by
  simpa using List.find?_some h

theorem map_modify_of_notMem {key : BucketKey} {l : List Bucket} (h : ∀ c ∈ l, c.key ≠ key)
    (f : Bucket → Bucket) : l.map (fun c => if c.key = key then f c else c) = l := by
  rw [List.map_congr_left fun c hc => if_neg (h c hc), List.map_id']

/-- Changing the bucket with a key changes one bucket, as no other has its key. -/
theorem workload_modifyBucket {s : State} {b : Bucket}
    (nodup : (s.workload.buckets.map Bucket.key).Nodup) (h : s.bucket? b.key = some b) :
    ∃ others, s.workload.buckets = b ::ₘ others ∧ ∀ f : Bucket → Bucket,
      (s.modifyBucket b.key f).workload = { s.workload with buckets := f b ::ₘ others } := by
  obtain ⟨-, before, after, hs, hbefore⟩ := List.find?_eq_some_iff_append.mp h
  have hafter : ∀ c ∈ after, c.key ≠ b.key := by
    intro c hc same
    simp only [workload, hs, Multiset.map_coe, Multiset.coe_nodup, List.map_append, List.map_cons,
      List.nodup_append, List.nodup_cons] at nodup
    exact nodup.2.1.1 (List.mem_map.mpr ⟨c, hc, same⟩)
  refine ⟨↑(before ++ after), ?_, fun f => ?_⟩
  · simp [workload, hs]
  · have hm : (s.modifyBucket b.key f).buckets = before ++ f b :: after := by
      simp only [modifyBucket, hs, List.map_append, List.map_cons, if_true]
      rw [map_modify_of_notMem (by simpa using hbefore), map_modify_of_notMem hafter]
    rw [workload, hm]
    simp only [workload, underway, modifyBucket, Workload.mk.injEq, true_and, and_true]
    simp

theorem ensureBucket_of_some {s : State} {key : BucketKey} {b : Bucket}
    (h : s.bucket? key = some b) (plural : String) :
    s.ensureBucket ⟨key, plural, [], [], false⟩ = s := by
  rw [ensureBucket, h]

/-- A bucket that is added and changed is all that is new. -/
theorem workload_ensureBucket_modifyBucket {s : State} {b : Bucket} (h : s.bucket? b.key = none)
    (f : Bucket → Bucket) :
    ((s.ensureBucket b).modifyBucket b.key f).workload =
      { s.workload with buckets := f b ::ₘ s.workload.buckets } := by
  have fresh : ∀ c ∈ s.buckets, c.key ≠ b.key := by
    simpa [workload] using bucket?_eq_none_iff.mp h
  have hm : ((s.ensureBucket b).modifyBucket b.key f).buckets = s.buckets ++ [f b] := by
    rw [ensureBucket, h]
    simp [modifyBucket, map_modify_of_notMem fresh]
  rw [workload, hm]
  rw [ensureBucket, h]
  simp only [workload, underway, modifyBucket, Workload.mk.injEq, true_and, and_true]
  simp

section Simulation

variable {setup : Setup} {limit : Nat} {s : State} {key : BucketKey} {cycle : Cycle} {p : Phase}

/-- The bucket of a cycle under way, and what else there is. -/
theorem exists_bucket_of_guarded (h : Guarded (s.workload.plus p)) (hk : key ∈ p.keys) :
    ∃ b others, b.key = key ∧ s.bucket? key = some b ∧ s.workload.buckets = b ::ₘ others ∧
      ∀ f : Bucket → Bucket,
        (s.modifyBucket key f).workload = { s.workload with buckets := f b ::ₘ others } := by
  obtain ⟨lost, tokens⟩ := h
  obtain ⟨c, hc, -, same⟩ := tokens.exists_bucket (p := p) (by simp [plus, plusAll]) hk
  have found : s.bucket? key ≠ none := fun hn =>
    bucket?_eq_none_iff.mp hn (same ▸ Multiset.mem_map_of_mem _ hc)
  obtain ⟨b, hb⟩ := Option.ne_none_iff_exists'.mp found
  obtain rfl := key_of_bucket? hb
  obtain ⟨others, hs, hm⟩ := workload_modifyBucket tokens.keys hb
  exact ⟨b, others, rfl, hb, hs, hm⟩

theorem closeCycle_steps {response : Option HeldResponse}
    (h : Guarded (s.workload.plus (.closing key response))) :
    Steps limit (s.workload.plus (.closing key response)) (s.closeCycle key response).workload := by
  obtain ⟨b, others, rfl, hb, hs, hm⟩ :=
    exists_bucket_of_guarded h (Multiset.mem_singleton_self key)
  unfold closeCycle
  rw [hb]
  by_cases empty : b.pending = []
  · have step : Step limit (s.workload.plus (.closing b.key response)) _ :=
      .closeLast b response rfl hs empty
    simp only [List.isEmpty_iff.mpr empty, if_true, workload_onLedger, hm]
    exact .single step
  · have step : Step limit (s.workload.plus (.closing b.key response)) _ :=
      .closeNext b response rfl hs empty
    simp only [List.isEmpty_iff, empty, if_false, workload_pushJob, hm]
    exact .tail (.single step) (.remark _ _ rfl)

theorem abortCycle_steps {batch : List Save} (h : Guarded (s.workload.plus (.failing key batch))) :
    Steps limit (s.workload.plus (.failing key batch)) (s.abortCycle key batch).workload := by
  obtain ⟨b, others, rfl, hb, hs, hm⟩ :=
    exists_bucket_of_guarded h (Multiset.mem_singleton_self key)
  unfold abortCycle
  rw [hb]
  by_cases empty : b.pending = []
  · have step : Step limit (s.workload.plus (.failing b.key batch)) _ :=
      .abortLast b batch rfl hs empty
    simp only [Ledger.settleAll_append] at step
    simp only [List.isEmpty_iff.mpr empty, if_true, workload_onLedger, hm]
    exact .single step
  · -- The next cycle is noted in the journal before the batch is cancelled.
    have noted : Step limit (s.workload.plus (.failing b.key batch)) _ :=
      .remark _ (.queued (.cycle b.key)) rfl
    have step : Step limit
        ((s.workload.plus (.failing b.key batch)).onLedger (·.note (.queued (.cycle b.key)))) _ :=
      .abortNext b batch rfl hs empty
    simp only [List.isEmpty_iff, empty, if_false, workload_onLedger, workload_pushJob]
    exact .tail (.single noted) step

theorem measure_steps (w : Workload) (tracker : Tracker) (timer : Timer) (ending : Ending) :
    Steps limit w (w.onLedger (·.measure tracker timer ending)) := by
  unfold Ledger.measure
  cases hm : tracker.finish? timer ending w.clock with
  | none => simpa [Workload.onLedger, hm] using Relation.ReflTransGen.refl
  | some m =>
    have step : Step limit w (w.onLedger (·.note (.measured m))) := .remark w (.measured m) rfl
    simpa [Workload.onLedger, hm] using Relation.ReflTransGen.single step

/-- A sleep is no step, whether it takes time or not. -/
theorem sleepThen_steps (task : Task) {duration : Nat} {goOn : State → State}
    (h : Steps limit (s.workload.plusAll task.phases) (goOn s).workload) :
    Steps limit (s.workload.plusAll task.phases) (s.sleepThen duration task goOn).workload := by
  unfold sleepThen
  split
  · exact h
  · rw [workload_sleep]

theorem arrive_steps (h : Guarded (s.workload.plus (.sent cycle))) :
    Steps limit (s.workload.plus (.sent cycle)) (s.arrive setup cycle).workload := by
  unfold arrive
  dsimp only
  generalize setup.transport.answer s.answeredRequests cycle.request = answer
  generalize hr : ({ s with inFlight := s.inFlight - 1 } : State).onLedger
    (·.note (.answered cycle.key cycle.batch cycle.request answer)) = r
  have answered : Steps limit (s.workload.plus (.sent cycle))
      (r.workload.plus (.answered cycle answer)) := by
    subst hr
    exact .single (.answer cycle answer rfl)
  cases answer with
  | crash =>
    have failing := answered.tail (.crash cycle rfl)
    exact failing.trans (abortCycle_steps (Steps.guarded failing h))
  | failure cause =>
    have measured := answered.trans (measure_steps _ setup.tracker cycle.timer .failed)
    have closing := measured.tail (.refuse cycle cause rfl)
    dsimp only
    refine .trans ?_ (closeCycle_steps ?_)
    · exact closing
    · exact Steps.guarded closing h
  | body value =>
    have measured := answered.trans (measure_steps _ setup.tracker cycle.timer .stopped)
    cases hv : value.field? "background_task" with
    | some task =>
      have closing := measured.tail (.defer cycle value task rfl hv)
      simp only [hv]
      refine .trans ?_ (closeCycle_steps ?_)
      · exact closing
      · exact Steps.guarded closing h
    | none =>
      have closing := measured.tail (.hold cycle value rfl hv)
      simp only [hv]
      refine .trans ?_ (closeCycle_steps ?_)
      · exact closing
      · exact Steps.guarded closing h

theorem depart_steps {drain : Nat} (h : Guarded (s.workload.plus (.leaving cycle))) :
    Steps limit (s.workload.plus (.leaving cycle)) (s.depart setup drain cycle).workload := by
  unfold depart
  dsimp only
  generalize setup.transport.latency s.answeredRequests cycle.request = latency
  generalize hr : ({ s with inFlight := s.inFlight + 1, peak := max s.peak (s.inFlight + 1) } :
    State).onLedger (·.note (.posted cycle.key cycle.batch cycle.request)) = r
  have posted : Steps limit (s.workload.plus (.leaving cycle)) (r.workload.plus (.sent cycle)) := by
    subst hr
    exact .single (.post cycle rfl)
  apply posted.trans
  rw [← plusAll_singleton]
  apply sleepThen_steps (.job drain (.arrive cycle))
  rw [workload_release]
  simpa [Task.phases, Stage.phase] using arrive_steps (Steps.guarded posted h)

theorem nextBatch_ne_nil {b : Bucket} (settings : Settings) (h : b.pending ≠ []) :
    b.nextBatch settings.batchLimit ≠ [] := by
  have limit_pos := settings.batchLimit_pos
  have pending_pos := List.length_pos_iff.mpr h
  rw [← List.length_pos_iff, Bucket.nextBatch, List.length_take, Bucket.batchSize]
  split <;> omega

theorem startCycle_steps {drain : Nat} (h : Guarded (s.workload.plus (.waiting (.cycle key)))) :
    Steps setup.settings.batchLimit (s.workload.plus (.waiting (.cycle key)))
      (s.startCycle setup drain key).workload := by
  obtain ⟨b, others, rfl, hb, hs, hm⟩ :=
    exists_bucket_of_guarded h (Multiset.mem_singleton_self key)
  have filled : b.pending ≠ [] := by
    obtain ⟨lost, tokens⟩ := h
    exact tokens.filled b (by simp [plus, plusAll, hs]) (by simp [plus, plusAll])
  unfold startCycle
  rw [hb]
  dsimp only
  generalize hr : (s.modifyBucket b.key (·.afterBatch setup.settings.batchLimit)).onLedger
    (·.note (.taken b.key (b.nextBatch setup.settings.batchLimit))) = r
  have hw := congrArg workload hr
  rw [workload_onLedger, hm] at hw
  -- The body is made after the batch was taken, which changes no object.
  have same : s.batchBody? b.key = r.batchBody? b.key := by subst hr; rfl
  simp only [List.isEmpty_iff, nextBatch_ne_nil setup.settings filled, if_false]
  cases hbody : r.batchBody? b.key (b.nextBatch setup.settings.batchLimit) with
  | none =>
    have failing : Steps setup.settings.batchLimit (s.workload.plus (.waiting (.cycle b.key)))
        (r.workload.plus (.failing b.key (b.nextBatch setup.settings.batchLimit))) := by
      rw [← hw]
      exact .single (.spoil b rfl hs filled (by rw [← hbody, ← same]; rfl))
    simp only [workload_release]
    exact failing.trans (abortCycle_steps (Steps.guarded failing h))
  | some body =>
    have leaving (timer : Timer) :
        Steps setup.settings.batchLimit (s.workload.plus (.waiting (.cycle b.key)))
          (r.workload.plus (.leaving ⟨b.key, b.nextBatch setup.settings.batchLimit,
            ⟨b.plural, b.key.background, body⟩, timer⟩)) := by
      rw [← hw]
      exact .single (.take b body timer rfl hs filled (by rw [← hbody, ← same]; rfl))
    have gone := leaving (r.batchTimer (b.nextBatch setup.settings.batchLimit))
    apply gone.trans
    dsimp only
    rw [← plusAll_singleton]
    apply sleepThen_steps (.job drain (.depart _))
    simpa only [Task.phases, Stage.phase, plusAll_singleton] using
      depart_steps (Steps.guarded gone h)

theorem finishUpdate_steps {save : Save} {timer : Timer} :
    Steps limit (s.workload.plus (.saving save)) (s.finishUpdate setup save timer).workload := by
  have back : Steps limit (s.workload.plus (.saving save)) _ := .single (.comeBack save rfl)
  let reply := (s.saveable save.object).saveReply
  exact (back.trans (measure_steps _ setup.tracker timer reply.ending)).tail
    (.finish save reply rfl)

theorem startUpdate_steps {drain : Nat} {save : Save} :
    Steps limit (s.workload.plus (.waiting (.update save)))
      (s.startUpdate setup drain save).workload := by
  have saving : Steps limit (s.workload.plus (.waiting (.update save)))
      (s.workload.plus (.saving save)) := .single (.begin save rfl)
  unfold startUpdate
  apply saving.trans
  rw [← plusAll_singleton]
  apply sleepThen_steps (.job drain (.saved save _))
  rw [workload_release]
  simpa [Task.phases, Stage.phase] using finishUpdate_steps

theorem runStage_steps {drain : Nat} {stage : Stage} (h : Guarded (s.workload.plus stage.phase)) :
    Steps setup.settings.batchLimit (s.workload.plus stage.phase)
      (s.runStage setup drain stage).workload := by
  cases stage with
  | start job =>
    have started : Steps setup.settings.batchLimit (s.workload.plus (.waiting job))
        ((s.onLedger (·.note (.started job))).workload.plus (.waiting job)) :=
      .single (.remark _ (.started job) rfl)
    cases job with
    | cycle key => exact started.trans (startCycle_steps (Steps.guarded started h))
    | update save => exact started.trans startUpdate_steps
  | depart cycle => exact depart_steps h
  | arrive cycle =>
    simp only [runStage, workload_release]
    exact arrive_steps h
  | saved save timer =>
    simp only [runStage, workload_release]
    exact finishUpdate_steps

theorem workload_endQuiet (s : State) (generation : Nat) :
    (s.endQuiet generation).workload = s.workload := by
  unfold endQuiet
  split
  · rw [workload_drain]
    rfl
  · rfl

theorem runTask_steps {task : Task} (h : Guarded (s.workload.plusAll task.phases)) :
    Steps setup.settings.batchLimit (s.workload.plusAll task.phases)
      (s.runTask setup task).workload := by
  match task with
  | .countdown generation =>
    apply sleepThen_steps (.due generation)
    rw [workload_endQuiet, Task.phases, plusAll_zero]
  | .due generation =>
    rw [Task.phases, plusAll_zero, runTask, workload_endQuiet]
  | .flush id =>
    simp only [Task.phases, plusAll_zero, runTask, startFlush, workload_drain]
    exact .refl
  | .admitted ⟨id, []⟩ => simpa [Task.phases, runTask] using .refl
  | .admitted ⟨id, job :: rest⟩ =>
    have same : (s.runTask setup (.admitted ⟨id, job :: rest⟩)).workload =
        s.workload.plusAll (Task.admitted ⟨id, job :: rest⟩).phases := by
      rw [runTask, workload_startJobs, workload_spawn]
      simp only [plusAll, Task.phases, Stage.phase, List.map_cons, ← Multiset.cons_coe,
        ← Multiset.singleton_add, Workload.mk.injEq, true_and, and_true]
      abel
    rw [same]
  | .job id stage =>
    rw [Task.phases, plusAll_singleton] at h ⊢
    exact runStage_steps h

theorem workload_cons_ready {task : Task} {rest : List Task} (h : s.ready = task :: rest) :
    s.workload = ({ s with ready := rest } : State).workload.plusAll task.phases := by
  simp only [workload, underway, plusAll, h, ← Multiset.cons_coe, Multiset.cons_bind,
    Workload.mk.injEq, true_and, and_true]
  abel

theorem step?_steps {t : State} (step : s.step? setup = some t) (h : Guarded s.workload) :
    Steps setup.settings.batchLimit s.workload t.workload := by
  unfold step? at step
  split at step
  · next task rest hr =>
    cases step
    rw [workload_cons_ready hr] at h ⊢
    exact runTask_steps h
  · obtain ⟨time, -, rfl⟩ := Option.map_eq_some_iff.mp step
    rw [workload_wakeAt]
    exact .single (.pass _ time)

theorem enqueue_of_new {object : Nat} {r : State} (new : (s.record object).isNew = true)
    (hr : r = { s with handles := s.handles + 1 })
    (hk : BucketKey.ofSaveable (s.saveable object) = key) :
    s.enqueue object =
      let opened := r.ensureBucket ⟨key, (s.saveable object).model.plural, [], [], false⟩
      let joined := (opened.onLedger (·.note (.joined key ⟨object, s.handles⟩))).modifyBucket key
          fun b => { b.push ⟨object, s.handles⟩ with inFlight := true }
      if ((r.bucket? key).map Bucket.inFlight).getD false then joined
      else joined.pushJob (.cycle key) := by
  subst hr hk
  exact if_pos new

/-- A new object joins its bucket, and the cycle of a bucket that was idle is pushed. -/
theorem enqueue_new_steps {object : Nat} (inRange : object < s.records.length)
    (new : (s.record object).isNew = true) (h : Guarded s.workload) :
    Steps limit s.workload (s.enqueue object).workload := by
  have pushed (t : State) (key : BucketKey) {w : Workload}
      (steps : Steps limit w (t.workload.plus (.waiting (.cycle key)))) :
      Steps limit w (t.pushJob (.cycle key)).workload := by
    rw [workload_pushJob]
    exact steps.tail (.remark _ _ rfl)
  generalize hr : ({ s with handles := s.handles + 1 } : State) = r
  have asked : r.workload = { s.workload with handles := s.handles + 1 } := by subst hr; rfl
  have nodup : (r.workload.buckets.map Bucket.key).Nodup := by
    obtain ⟨lost, tokens⟩ := h
    rw [asked]
    exact tokens.keys
  have found : r.bucket? = s.bucket? := by subst hr; rfl
  generalize hk : BucketKey.ofSaveable (s.saveable object) = key
  rw [enqueue_of_new new hr.symm hk]
  have onLedger_modifyBucket (t : State) (f : Bucket → Bucket) (g : Ledger → Ledger) :
      ((t.onLedger g).modifyBucket key f).workload = (t.modifyBucket key f).workload.onLedger g :=
    rfl
  cases hb : r.bucket? key with
  | none =>
    have fresh : s.workload.keyOf object ∉ s.workload.buckets.map Bucket.key := by
      rw [found, ← hk] at hb
      exact bucket?_eq_none_iff.mp hb
    have joined : Step limit s.workload _ := .joinFirst s.workload object inRange new fresh
    refine pushed _ key (.single ?_)
    rw [onLedger_modifyBucket, workload_ensureBucket_modifyBucket hb, asked, ← hk]
    exact joined
  | some b =>
    obtain rfl := key_of_bucket? hb
    obtain ⟨others, hs, hm⟩ := workload_modifyBucket nodup hb
    rw [asked] at hs
    simp only [Option.map_some, Option.getD_some]
    split
    · next busy =>
      have joined : Step limit s.workload _ := .joinBusy object b inRange new hk.symm hs busy
      rw [onLedger_modifyBucket, ensureBucket_of_some hb, hm, asked]
      exact .single joined
    · next idle =>
      have joined : Step limit s.workload _ :=
        .joinIdle object b inRange new hk.symm hs (Bool.eq_false_iff.mpr idle)
      refine pushed _ b.key (.single ?_)
      rw [onLedger_modifyBucket, ensureBucket_of_some hb, hm, asked]
      exact joined

theorem enqueue_steps {object : Nat} (inRange : object < s.records.length)
    (h : Guarded s.workload) : Steps limit s.workload (s.enqueue object).workload := by
  by_cases new : (s.record object).isNew = true
  · exact enqueue_new_steps inRange new h
  · have asked : Step limit s.workload _ :=
      .ask s.workload object inRange (Bool.eq_false_iff.mpr new)
    unfold enqueue
    dsimp only
    rw [if_neg (show ¬_ = true from new), workload_pushJob]
    exact .single asked

theorem move_steps {t : State} (move : Move setup s t) (h : Guarded s.workload) :
    Steps setup.settings.batchLimit s.workload t.workload := by
  cases move with
  | create record => exact .single (.create s.workload record)
  | enqueue object inRange => exact enqueue_steps inRange h
  | flush =>
    rw [flush, startFlush, workload_drain]
    exact .refl
  | flushLater =>
    rw [flushLater, workload_spawn, Task.phases, plusAll_zero]
    exact .refl
  | step _ step => exact step?_steps step h
  | wait time => exact .single (.pass s.workload time)

end Simulation

theorem workload_reorder {s : State} {tasks : List Task} (h : tasks.Perm s.ready) :
    ({ s with ready := tasks } : State).workload = s.workload := by
  have same : (↑tasks : Multiset Task) = ↑s.ready := Multiset.coe_eq_coe.mpr h
  simp only [workload, underway, same]

end State

theorem Turn.steps {setup : Setup} {s t : State} (turn : Turn setup s t)
    (h : Guarded s.workload) : Steps setup.settings.batchLimit s.workload t.workload := by
  cases turn with
  | move move => exact State.move_steps move h
  | reorder tasks perm =>
    rw [State.workload_reorder perm]
  | elapse time =>
    rw [State.workload_wakeAt]
    exact .single (.pass _ time)

theorem Later.steps {setup : Setup} {s t : State} (later : Later setup s t)
    (h : Guarded s.workload) : Steps setup.settings.batchLimit s.workload t.workload := by
  induction later with
  | refl => exact .refl
  | tail _ turn ih => exact ih.trans (turn.steps (ih.guarded h))

/-- The workload of a reachable state is reachable, however the runtime orders its tasks. -/
theorem ReachableInAnyOrder.workload {setup : Setup} {s : State}
    (h : ReachableInAnyOrder setup s) :
    Workload.Reachable setup.settings.batchLimit s.workload := by
  apply h.induction (P := fun s => Workload.Reachable setup.settings.batchLimit s.workload)
  · exact .initial
  · intro s t _ turn ih
    exact ih.steps (turn.steps ih.tokens.guarded)

end Writeback.Queue
