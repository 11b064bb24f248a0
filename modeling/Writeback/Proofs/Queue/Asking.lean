import Writeback.Proofs.Queue.Conservation
import Writeback.Proofs.Queue.Lines
import Writeback.Proofs.Queue.Simulation

/-!
# Only enqueueing asks for a save

Nothing that the machine does asks for a save: the number of handles grows by enqueueing alone,
and so does the list of the saves that were asked for. Enqueueing a new object notes that a save
joined the bucket of its type; enqueueing an existing one notes the job of its save.
-/

namespace Writeback

namespace Queue

namespace State

section Handles

variable (s : State)

@[simp] theorem handles_onLedger (f : Ledger → Ledger) : (s.onLedger f).handles = s.handles := rfl

@[simp] theorem handles_release : s.release.handles = s.handles := by
  unfold release
  split <;> rfl

@[simp] theorem handles_startJobs (id : Nat) (jobs : List Job) :
    (startJobs id jobs s).handles = s.handles := by
  induction jobs generalizing s with
  | nil => rfl
  | cons job rest ih =>
    unfold startJobs
    split
    · exact ih _
    · rfl

@[simp] theorem handles_drain (id : Nat) : (drain id s).handles = s.handles :=
  handles_startJobs _ id s.jobs

theorem handles_sleepThen (duration : Nat) (task : Task) {goOn : State → State}
    (h : (goOn s).handles = s.handles) : (s.sleepThen duration task goOn).handles = s.handles := by
  unfold sleepThen
  split
  · exact h
  · rfl

@[simp] theorem handles_closeCycle (key : BucketKey) (response : Option HeldResponse) :
    (s.closeCycle key response).handles = s.handles := by
  unfold closeCycle
  split
  · rfl
  · split <;> rfl

@[simp] theorem handles_abortCycle (key : BucketKey) (batch : List Save) :
    (s.abortCycle key batch).handles = s.handles := by
  unfold abortCycle
  rw [handles_onLedger]
  split
  · rfl
  · split <;> rfl

@[simp] theorem handles_arrive (setup : Setup) (cycle : Cycle) :
    (s.arrive setup cycle).handles = s.handles := by
  unfold arrive
  dsimp only
  split
  · exact handles_abortCycle _ _ _
  · exact handles_closeCycle _ _ _
  · split <;> exact handles_closeCycle _ _ _

@[simp] theorem handles_depart (setup : Setup) (id : Nat) (cycle : Cycle) :
    (s.depart setup id cycle).handles = s.handles := by
  unfold depart
  apply handles_sleepThen _ _ _
  rw [handles_release, handles_arrive]

@[simp] theorem handles_startCycle (setup : Setup) (id : Nat) (key : BucketKey) :
    (s.startCycle setup id key).handles = s.handles := by
  unfold startCycle
  split
  · exact handles_release s
  · dsimp only
    split
    · rw [handles_release, handles_closeCycle]
      rfl
    · split
      · rw [handles_release, handles_abortCycle]
        rfl
      · exact handles_sleepThen _ _ _ (handles_depart _ setup id _)

@[simp] theorem handles_runStage (setup : Setup) (id : Nat) (stage : Stage) :
    (s.runStage setup id stage).handles = s.handles := by
  cases stage with
  | start job =>
    cases job with
    | cycle key => exact handles_startCycle _ setup id key
    | update save => exact handles_sleepThen _ _ _ (handles_release _)
  | depart cycle => exact handles_depart s setup id cycle
  | arrive cycle => exact (handles_release _).trans (handles_arrive s setup cycle)
  | saved save timer => exact handles_release _

@[simp] theorem handles_endQuiet (generation : Nat) :
    (s.endQuiet generation).handles = s.handles := by
  unfold endQuiet
  split
  · exact handles_drain _ s.drains
  · rfl

theorem handles_runTask (setup : Setup) (task : Task) :
    (s.runTask setup task).handles = s.handles := by
  match task with
  | .countdown generation => exact handles_sleepThen _ _ _ (handles_endQuiet s generation)
  | .due generation => exact handles_endQuiet s generation
  | .flush id => exact handles_drain _ id
  | .admitted ⟨_, []⟩ => exact handles_release s
  | .admitted ⟨id, _ :: rest⟩ => exact handles_startJobs _ id rest
  | .job id stage => exact handles_runStage s setup id stage

theorem handles_step? {setup : Setup} {s t : State} (step : s.step? setup = some t) :
    t.handles = s.handles := by
  unfold step? at step
  split at step
  · cases step
    exact handles_runTask _ setup _
  · obtain ⟨time, -, rfl⟩ := Option.map_eq_some_iff.mp step
    rfl

end Handles

/-- A move asks for no save unless it enqueues. -/
theorem handles_move {setup : Setup} {s t : State} (move : Move setup s t) :
    t.handles = s.handles ∨ ∃ object, object < s.records.length ∧ t = s.enqueue object := by
  cases move with
  | create => exact .inl rfl
  | enqueue object known => exact .inr ⟨object, known, rfl⟩
  | flush => exact .inl (handles_drain _ s.drains)
  | flushLater => exact .inl rfl
  | step _ step => exact .inl (handles_step? step)
  | wait => exact .inl rfl

theorem events_pushJob (s : State) (job : Job) :
    (s.pushJob job).events = s.events ++ [.queued job] :=
  Ledger.events_note s.toLedger (.queued job)

theorem toLedger_ensureBucket (s : State) (bucket : Bucket) :
    (s.ensureBucket bucket).toLedger = s.toLedger := by
  unfold ensureBucket
  split <;> rfl

theorem events_enqueue_of_new {s : State} {object : Nat} (new : (s.record object).isNew = true) :
    ∃ queued : List Event, (∀ e ∈ queued, e.isRemark = true) ∧
      (s.enqueue object).events = s.events ++
        .joined (.ofSaveable (s.saveable object)) ⟨object, s.handles⟩ :: queued := by
  have joined (key : BucketKey) (b : Bucket) (save : Save) (f : Bucket → Bucket) :
      ((((({ s with handles := s.handles + 1 } : State).ensureBucket b).onLedger
        (·.note (.joined key save))).modifyBucket key f).events) = s.events ++ [.joined key save] :=
    (Ledger.events_note _ _).trans (congrArg (·.events ++ _) (toLedger_ensureBucket _ b))
  rw [enqueue_of_new new rfl rfl]
  dsimp only
  split
  · exact ⟨[], by simp, joined _ _ _ _⟩
  · refine ⟨[.queued (.cycle (.ofSaveable (s.saveable object)))], by simp [Event.isRemark], ?_⟩
    rw [events_pushJob, joined]
    simp

theorem events_enqueue_of_old {s : State} {object : Nat} (old : ¬(s.record object).isNew = true) :
    (s.enqueue object).events = s.events ++ [.queued (.update ⟨object, s.handles⟩)] := by
  have pushed : s.enqueue object =
      ({ s with handles := s.handles + 1 } : State).pushJob (.update ⟨object, s.handles⟩) :=
    if_neg old
  rw [pushed, events_pushJob]

/-- Enqueueing notes a new object as joined to the bucket of its type. -/
theorem joinedIn_enqueue (s : State) (object : Nat) (key : BucketKey) :
    joinedIn key (s.enqueue object).events = joinedIn key s.events ++
      if (s.record object).isNew = true ∧ BucketKey.ofSaveable (s.saveable object) = key
      then [⟨object, s.handles⟩] else [] := by
  by_cases new : (s.record object).isNew = true
  · obtain ⟨queued, remarks, events⟩ := events_enqueue_of_new new
    have nothing : joinedIn key queued = [] :=
      joinedIn_of_silent fun e he => Event.isWire_of_isRemark (remarks e he)
    have here : joinedIn key [.joined (.ofSaveable (s.saveable object)) ⟨object, s.handles⟩] =
        if BucketKey.ofSaveable (s.saveable object) = key then [⟨object, s.handles⟩] else [] := by
      by_cases same : BucketKey.ofSaveable (s.saveable object) = key <;>
        simp [joinedIn, Event.joined?, same]
    rw [events, joinedIn_append, ← List.singleton_append, joinedIn_append, here, nothing]
    simp [new]
  · rw [events_enqueue_of_old new, joinedIn_append, if_neg fun both => new both.1]
    rfl

end State

namespace Workload

variable {limit : Nat} {w w' : Workload} {key : BucketKey}

theorem joinedIn_eq_asked (l : Ledger) (key : BucketKey) :
    joinedIn key l.events =
      (l.asked.filter fun entry => entry.1 = some key).map Prod.snd := by
  have pick : Event.joined? key = fun e =>
      e.asked?.bind fun entry => if entry.1 = some key then some entry.2 else none := by
    funext e
    cases e with
    | queued job => cases job <;> rfl
    | joined k save => by_cases same : k = key <;> simp [Event.joined?, Event.asked?, same]
    | _ => rfl
  rw [joinedIn, pick, ← List.filterMap_filterMap, Ledger.asked, Ledger.history]
  induction l.events.filterMap Event.asked? with
  | nil => rfl
  | cons entry entries ih =>
    by_cases same : entry.1 = some key <;> simp [same, ih]

theorem Reachable.known (h : Reachable limit w) {entry : Option BucketKey × Save}
    (mem : entry ∈ w.asked) : entry.2.object < w.records.length := by
  induction h with
  | initial => simp [Ledger.asked, Ledger.history, Ledger.events] at mem
  | @step v w _ step ih =>
    have grown := step.keeps.length
    rcases step.asked with ⟨-, same⟩ | ⟨key, object, known, -, more⟩
    · rw [same] at mem
      exact (ih mem).trans_le grown
    · rw [more] at mem
      rcases List.mem_append.mp mem with mem | mem
      · exact (ih mem).trans_le grown
      · rw [List.mem_singleton.mp mem]
        exact known.trans_le grown

theorem Steps.asked (steps : Steps limit w w') : w.asked <+: w'.asked := by
  induction steps with
  | refl => exact List.prefix_rfl
  | tail _ step ih =>
    rcases step.asked with ⟨-, same⟩ | ⟨key, object, -, -, more⟩
    · rw [same]
      exact ih
    · rw [more]
      exact ih.trans (List.prefix_append _ _)

theorem Steps.exists_news (steps : Steps limit w w') : ∃ news, w'.events = w.events ++ news := by
  induction steps with
  | refl => exact ⟨[], (List.append_nil _).symm⟩
  | tail _ step ih =>
    obtain ⟨news, early⟩ := ih
    obtain ⟨last, late⟩ := step.exists_news
    exact ⟨news ++ last, by rw [late, early, List.append_assoc]⟩

theorem Steps.keeps (steps : Steps limit w w') : w.Keeps w'.toLedger := by
  induction steps with
  | refl => exact ⟨le_rfl, fun _ _ => rfl⟩
  | tail _ step ih =>
    exact ⟨ih.length.trans step.keeps.length, fun object known =>
      (step.keeps.saveable object (known.trans_le ih.length)).trans (ih.saveable object known)⟩

/-- The handles of a bucket increase in the order its saves joined. -/
theorem Reachable.pairwise_joinedIn (h : Reachable limit w) (key : BucketKey) :
    ((joinedIn key w.events).map Save.handle).Pairwise (· < ·) := by
  have part : ((joinedIn key w.events).map Save.handle).Sublist (List.range w.handles) := by
    rw [← h.handles_asked, joinedIn_eq_asked, List.map_map]
    exact List.filter_sublist.map _
  exact List.pairwise_lt_range.sublist part

theorem Reachable.nodup_joinedIn (h : Reachable limit w) (key : BucketKey) :
    (joinedIn key w.events).Nodup :=
  .of_map _ ((h.pairwise_joinedIn key).imp fun lt => Nat.ne_of_lt lt)

theorem mem_asked_of_mem_joinedIn {l : Ledger} {save : Save} (mem : save ∈ joinedIn key l.events) :
    (some key, save) ∈ l.asked :=
  Ledger.mem_asked_some.mpr (mem_joinedIn.mp mem)

theorem Reachable.handle_lt (h : Reachable limit w) {entry : Option BucketKey × Save}
    (mem : entry ∈ w.asked) : entry.2.handle < w.handles := by
  rw [← List.mem_range, ← h.handles_asked]
  exact List.mem_map_of_mem (f := fun entry => entry.2.handle) mem

end Workload

/-- While no save is asked for, none joins a bucket. -/
theorem ReachableInAnyOrder.joinedIn_of_handles {setup : Setup} {s t : State}
    (h : ReachableInAnyOrder setup s) (turn : Turn setup s t) (handles : t.handles = s.handles)
    (key : BucketKey) : joinedIn key t.events = joinedIn key s.events := by
  have grown := (turn.steps h.workload.tokens.guarded).asked
  have length : s.workload.asked.length = t.workload.asked.length := by
    have before := congrArg List.length h.workload.handles_asked
    have after := congrArg List.length (h.turn turn).workload.handles_asked
    rw [List.length_map, List.length_range] at before after
    exact before.trans (handles.symm.trans after.symm)
  rw [Workload.joinedIn_eq_asked, Workload.joinedIn_eq_asked]
  exact congrArg (fun asked => List.map Prod.snd (List.filter _ asked))
    (grown.eq_of_length length).symm

/-- Only enqueueing a new object makes a save join a bucket. -/
theorem ReachableInAnyOrder.joinedIn_move {setup : Setup} {s t : State}
    (h : ReachableInAnyOrder setup s) (move : Move setup s t) (key : BucketKey) :
    joinedIn key t.events = joinedIn key s.events ∨
      ∃ object, object < s.records.length ∧ t = s.enqueue object :=
  (State.handles_move move).imp_left fun handles => h.joinedIn_of_handles (.move move) handles key

end Queue

end Writeback
