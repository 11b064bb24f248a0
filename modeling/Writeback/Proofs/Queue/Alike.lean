import Writeback.Proofs.Queue.Moves
import Writeback.Proofs.Queue.Outcomes
import Writeback.Proofs.Queue.Simulation

/-!
# Queues that are alike but for a collection

Two queues are alike but for a collection when their schedules are the same, their buckets are the
same but for the answers that buckets of the collection hold, and their ledgers are alike. What is
done to the schedule alone keeps queues alike, and so does what is done in the same way to their
buckets and ledgers; what one queue alone writes down of the requests to the collection makes no
difference.
-/

namespace Writeback

/-- A bucket without the answers that it holds, if it is one of the collection. -/
def Bucket.unheld (plural : String) (b : Bucket) : Bucket :=
  if b.plural = plural then { b with held := [] } else b

namespace Bucket

variable {plural : String} {b c : Bucket}

@[simp] theorem unheld_key : (b.unheld plural).key = b.key := by
  unfold unheld
  split <;> rfl

@[simp] theorem unheld_plural : (b.unheld plural).plural = b.plural := by
  unfold unheld
  split <;> rfl

@[simp] theorem unheld_pending : (b.unheld plural).pending = b.pending := by
  unfold unheld
  split <;> rfl

@[simp] theorem unheld_inFlight : (b.unheld plural).inFlight = b.inFlight := by
  unfold unheld
  split <;> rfl

@[simp] theorem unheld_unheld : (b.unheld plural).unheld plural = b.unheld plural := by
  by_cases same : b.plural = plural <;> simp [unheld, same]

/-- Buckets that are the same without the answers they hold. -/
structure AlikeBut (plural : String) (b c : Bucket) : Prop where
  unheld : c.unheld plural = b.unheld plural

namespace AlikeBut

theorem key (h : AlikeBut plural b c) : c.key = b.key := by
  simpa using congrArg Bucket.key h.unheld

theorem plural_eq (h : AlikeBut plural b c) : c.plural = b.plural := by
  simpa using congrArg Bucket.plural h.unheld

theorem pending (h : AlikeBut plural b c) : c.pending = b.pending := by
  simpa using congrArg Bucket.pending h.unheld

theorem inFlight (h : AlikeBut plural b c) : c.inFlight = b.inFlight := by
  simpa using congrArg Bucket.inFlight h.unheld

theorem eq_of_ne (h : AlikeBut plural b c) (other : b.plural ≠ plural) : c = b := by
  have same := h.unheld
  rwa [Bucket.unheld, if_neg (h.plural_eq ▸ other), Bucket.unheld, if_neg other] at same

theorem held (h : AlikeBut plural b c) (other : b.plural ≠ plural) : c.held = b.held := by
  rw [h.eq_of_ne other]

theorem of_fields (key : c.key = b.key) (name : c.plural = b.plural)
    (pending : c.pending = b.pending) (inFlight : c.inFlight = b.inFlight)
    (held : b.plural ≠ plural → c.held = b.held) : AlikeBut plural b c := by
  obtain ⟨_, _, _, _, _⟩ := b
  obtain ⟨_, _, _, _, _⟩ := c
  dsimp only at key name pending inFlight held
  subst key name pending inFlight
  constructor
  unfold Bucket.unheld
  split
  · rfl
  · next other => rw [held other]

theorem batchSize (h : AlikeBut plural b c) (limit : Nat) :
    c.batchSize limit = b.batchSize limit := by
  rw [Bucket.batchSize, Bucket.batchSize, h.key, h.pending]

theorem nextBatch (h : AlikeBut plural b c) (limit : Nat) :
    c.nextBatch limit = b.nextBatch limit := by
  rw [Bucket.nextBatch, Bucket.nextBatch, h.batchSize, h.pending]

theorem afterBatch (h : AlikeBut plural b c) (limit : Nat) :
    (b.afterBatch limit).AlikeBut plural (c.afterBatch limit) := by
  have pending : (c.afterBatch limit).pending = (b.afterBatch limit).pending := by
    rw [Bucket.afterBatch, Bucket.afterBatch, h.batchSize, h.pending]
  exact .of_fields h.key h.plural_eq pending h.inFlight h.held

end AlikeBut

end Bucket

namespace Queue

namespace State

/-- Two queues are alike but for what came of the requests to a collection. -/
structure AlikeBut (plural : String) (s t : State) : Prop where
  schedule : t = { s with buckets := t.buckets, toLedger := t.toLedger }
  buckets : t.buckets.map (Bucket.unheld plural) = s.buckets.map (Bucket.unheld plural)
  ledger : s.toLedger.AlikeBut plural t.toLedger

variable {plural : String} {s t u : State}

namespace AlikeBut

theorem refl (plural : String) (s : State) : AlikeBut plural s s := ⟨rfl, rfl, .refl plural _⟩

theorem exists_eq (h : AlikeBut plural s t) : ∃ (bs : List Bucket) (l : Ledger),
    t = { s with buckets := bs, toLedger := l } ∧
      bs.map (Bucket.unheld plural) = s.buckets.map (Bucket.unheld plural) ∧
      s.toLedger.AlikeBut plural l :=
  ⟨t.buckets, t.toLedger, h.schedule, h.buckets, h.ledger⟩

theorem symm (h : AlikeBut plural s t) : AlikeBut plural t s := by
  obtain ⟨bs, l, rfl, buckets, ledger⟩ := h.exists_eq
  exact ⟨rfl, buckets.symm, ledger.symm⟩

theorem trans (first : AlikeBut plural s t) (second : AlikeBut plural t u) :
    AlikeBut plural s u := by
  obtain ⟨bs, l, rfl, buckets, ledger⟩ := first.exists_eq
  obtain ⟨cs, m, rfl, buckets', ledger'⟩ := second.exists_eq
  exact ⟨rfl, buckets'.trans buckets, ledger.trans ledger'⟩

/-- What is done to the schedule, whatever buckets and ledger are. -/
theorem frame {f : State → State} (hf : ∀ (s : State) (bs : List Bucket) (l : Ledger),
      f { s with buckets := bs, toLedger := l } = { f s with buckets := bs, toLedger := l })
    (h : AlikeBut plural s t) : AlikeBut plural (f s) (f t) := by
  have same : f s = { f s with buckets := s.buckets, toLedger := s.toLedger } :=
    hf s s.buckets s.toLedger
  have old : (f s).buckets = s.buckets := by rw [same]
  have past : (f s).toLedger = s.toLedger := by rw [same]
  obtain ⟨bs, l, rfl, buckets, ledger⟩ := h.exists_eq
  rw [hf s bs l]
  exact ⟨rfl, old ▸ buckets, past ▸ ledger⟩

theorem onLedger (h : AlikeBut plural s t) {f g : Ledger → Ledger}
    (ledger : (f s.toLedger).AlikeBut plural (g t.toLedger)) :
    AlikeBut plural (s.onLedger f) (t.onLedger g) := by
  obtain ⟨bs, l, rfl, buckets, -⟩ := h.exists_eq
  exact ⟨rfl, buckets, ledger⟩

theorem note (h : AlikeBut plural s t) (event : Event) :
    AlikeBut plural (s.onLedger (·.note event)) (t.onLedger (·.note event)) :=
  h.onLedger (h.ledger.note event)

theorem settleAll (h : AlikeBut plural s t) (result : SaveResult) (saves : List Save) :
    AlikeBut plural (s.onLedger (·.settleAll result saves))
      (t.onLedger (·.settleAll result saves)) :=
  h.onLedger (h.ledger.settleAll result saves)

theorem measure (h : AlikeBut plural s t) (tracker tracker' : Tracker) (timer : Timer)
    (ending : Ending) :
    AlikeBut plural (s.onLedger (·.measure tracker timer ending))
      (t.onLedger (·.measure tracker' timer ending)) :=
  h.onLedger (h.ledger.measure tracker tracker' timer ending)

/-- One queue writes down what came of requests to the collection. -/
theorem aside (f : Ledger → Ledger) (ledger : s.toLedger.AlikeBut plural (f s.toLedger)) :
    AlikeBut plural s (s.onLedger f) := ⟨rfl, rfl, ledger⟩

theorem postedTo (h : AlikeBut plural s t) : t.postedTo plural = s.postedTo plural :=
  h.ledger.postedTo

/-! ### The schedule -/

theorem spawn (h : AlikeBut plural s t) (task : Task) :
    AlikeBut plural (s.spawn task) (t.spawn task) :=
  h.frame (f := (·.spawn task)) fun _ _ _ => rfl

theorem sleep (h : AlikeBut plural s t) (duration : Nat) (task : Task) :
    AlikeBut plural (s.sleep duration task) (t.sleep duration task) := by
  have clock : t.clock = s.clock := h.ledger.clock
  unfold State.sleep
  rw [clock]
  exact h.frame (f := fun u => { u with
    sleeping := u.sleeping ++ [⟨s.clock + duration, task⟩] }) fun _ _ _ => rfl

theorem sleepThen (h : AlikeBut plural s t) (duration : Nat) (task : Task)
    {goOn goOn' : State → State} (next : AlikeBut plural (goOn s) (goOn' t)) :
    AlikeBut plural (s.sleepThen duration task goOn) (t.sleepThen duration task goOn') := by
  unfold State.sleepThen
  split
  · exact next
  · exact h.sleep duration task

theorem pushJob (h : AlikeBut plural s t) (job : Job) :
    AlikeBut plural (s.pushJob job) (t.pushJob job) := by
  have pushed := h.frame (f := fun u => ({ u with
    jobs := u.jobs ++ [job], generation := u.generation + 1 } : State).spawn
      (.countdown (u.generation + 1))) fun _ _ _ => rfl
  exact pushed.note (.queued job)

theorem release (h : AlikeBut plural s t) : AlikeBut plural s.release t.release := by
  refine h.frame (f := State.release) fun s bs l => ?_
  unfold State.release
  dsimp only
  split <;> rfl

theorem startJobs (h : AlikeBut plural s t) (id : Nat) (jobs : List Job) :
    AlikeBut plural (State.startJobs id jobs s) (State.startJobs id jobs t) :=
  h.frame (f := State.startJobs id jobs) fun s bs l => by rw [startJobs_eq, startJobs_eq]

theorem drain (h : AlikeBut plural s t) (id : Nat) :
    AlikeBut plural (State.drain id s) (State.drain id t) :=
  h.frame (f := State.drain id) fun s bs l => by rw [drain_eq, drain_eq]

theorem startFlush (h : AlikeBut plural s t) (id : Nat) :
    AlikeBut plural (s.startFlush id) (t.startFlush id) := by
  have counted := h.frame (f := fun u => { u with generation := u.generation + 1 }) fun _ _ _ => rfl
  exact counted.drain id

theorem numbered (h : AlikeBut plural s t) :
    AlikeBut plural { s with drains := s.drains + 1 } { t with drains := t.drains + 1 } :=
  h.frame (f := fun u => { u with drains := u.drains + 1 }) fun _ _ _ => rfl

theorem flush (h : AlikeBut plural s t) : AlikeBut plural s.flush t.flush := by
  have drains : t.drains = s.drains := by rw [h.schedule]
  unfold State.flush
  rw [drains]
  exact (drains ▸ h.numbered).startFlush s.drains

theorem flushLater (h : AlikeBut plural s t) : AlikeBut plural s.flushLater t.flushLater :=
  h.frame (f := State.flushLater) fun _ _ _ => rfl

theorem endQuiet (h : AlikeBut plural s t) (generation : Nat) :
    AlikeBut plural (s.endQuiet generation) (t.endQuiet generation) := by
  have drains : t.drains = s.drains := by rw [h.schedule]
  have counted : t.generation = s.generation := by rw [h.schedule]
  unfold State.endQuiet
  by_cases current : s.generation = generation
  · rw [if_pos current, if_pos (counted.trans current), drains]
    exact (drains ▸ h.numbered).drain s.drains
  · rw [if_neg current, if_neg (counted ▸ current)]
    exact h

theorem wakeAt (h : AlikeBut plural s t) (time : Nat) :
    AlikeBut plural (s.wakeAt time) (t.wakeAt time) := by
  have woken := h.frame (f := fun u => { u with
    ready := u.ready ++ (u.sleeping.filter fun p => p.due ≤ time).map Sleeper.task
    sleeping := u.sleeping.filter fun p => !(p.due ≤ time) }) fun _ _ _ => rfl
  exact woken.onLedger (f := fun l => { l with clock := time })
    (g := fun l => { l with clock := time }) (h.ledger.pass time)

theorem pop (h : AlikeBut plural s t) (rest : List Task) :
    AlikeBut plural (s.pop rest) (t.pop rest) :=
  h.frame (f := (·.pop rest)) fun _ _ _ => rfl

/-! ### The buckets -/

theorem exists_alike (h : AlikeBut plural s t) {c : Bucket} (mem : c ∈ t.buckets) :
    ∃ b ∈ s.buckets, b.AlikeBut plural c := by
  have unheld : c.unheld plural ∈ s.buckets.map (Bucket.unheld plural) :=
    h.buckets ▸ List.mem_map_of_mem mem
  obtain ⟨b, hb, same⟩ := List.mem_map.mp unheld
  exact ⟨b, hb, ⟨same.symm⟩⟩

theorem bucket?_cases (h : AlikeBut plural s t) (key : BucketKey) :
    (s.bucket? key = none ∧ t.bucket? key = none) ∨ ∃ b c,
      s.bucket? key = some b ∧ t.bucket? key = some c ∧ b.AlikeBut plural c := by
  have read (u : State) : (u.bucket? key).map (Bucket.unheld plural) =
      (u.buckets.map (Bucket.unheld plural)).find? fun b => b.key == key := by
    rw [List.find?_map, State.bucket?]
    congr 2
    funext b
    simp
  have same : (t.bucket? key).map (Bucket.unheld plural) =
      (s.bucket? key).map (Bucket.unheld plural) := by
    rw [read, read, h.buckets]
  cases hs : s.bucket? key with
  | none =>
    rw [hs, Option.map_none, Option.map_eq_none_iff] at same
    exact .inl ⟨rfl, same⟩
  | some b =>
    rw [hs, Option.map_some] at same
    obtain ⟨c, ht, unheld⟩ := Option.map_eq_some_iff.mp same
    exact .inr ⟨b, c, rfl, ht, ⟨unheld⟩⟩

theorem busy (h : AlikeBut plural s t) (key : BucketKey) :
    ((t.bucket? key).map Bucket.inFlight).getD false =
      ((s.bucket? key).map Bucket.inFlight).getD false := by
  rcases h.bucket?_cases key with ⟨hs, ht⟩ | ⟨b, c, hs, ht, alike⟩
  · rw [hs, ht]
  · rw [hs, ht]
    exact alike.inFlight

theorem modifyBucket (h : AlikeBut plural s t) (key : BucketKey) {f : Bucket → Bucket}
    (hf : ∀ b c, b.AlikeBut plural c → (f b).AlikeBut plural (f c)) :
    AlikeBut plural (s.modifyBucket key f) (t.modifyBucket key f) := by
  have read (bs : List Bucket) :
      (bs.map fun b => if b.key = key then f b else b).map (Bucket.unheld plural) =
        (bs.map (Bucket.unheld plural)).map fun b =>
          if b.key = key then (f b).unheld plural else b := by
    simp only [List.map_map]
    apply List.map_congr_left
    intro b _
    have step := (hf (b.unheld plural) b ⟨by simp⟩).unheld
    by_cases here : b.key = key <;> simp [here, step]
  obtain ⟨bs, l, rfl, buckets, ledger⟩ := h.exists_eq
  refine ⟨rfl, ?_, ledger⟩
  simp only [State.modifyBucket, read, buckets]

theorem ensureBucket (h : AlikeBut plural s t) (b : Bucket) :
    AlikeBut plural (s.ensureBucket b) (t.ensureBucket b) := by
  unfold State.ensureBucket
  rcases h.bucket?_cases b.key with ⟨hs, ht⟩ | ⟨_, _, hs, ht, -⟩
  · rw [hs, ht]
    obtain ⟨bs, l, rfl, buckets, ledger⟩ := h.exists_eq
    exact ⟨rfl, by simp [buckets], ledger⟩
  · rw [hs, ht]
    exact h

/-- Enqueueing an object that was not posted to the collection does the same to both. -/
theorem enqueue (h : AlikeBut plural s t) {object : Nat}
    (fresh : ∀ save ∈ s.postedTo plural, save.object ≠ object) :
    AlikeBut plural (s.enqueue object) (t.enqueue object) := by
  have record : t.record object = s.record object := h.ledger.record object fresh
  have handles : t.handles = s.handles := by rw [h.schedule]
  have asked := h.frame (f := fun u => { u with handles := u.handles + 1 }) fun _ _ _ => rfl
  generalize hs : ({ s with handles := s.handles + 1 } : State) = r at asked
  generalize ht : ({ t with handles := t.handles + 1 } : State) = r' at asked
  by_cases new : (s.record object).isNew = true
  · have saveable : t.saveable object = s.saveable object := h.ledger.saveable object
    rw [enqueue_of_new new hs.symm rfl, enqueue_of_new (record ▸ new) ht.symm rfl]
    rw [saveable, handles]
    generalize BucketKey.ofSaveable (s.saveable object) = key
    dsimp only
    have pushed (b c : Bucket) (alike : b.AlikeBut plural c) : Bucket.AlikeBut plural
        { b.push ⟨object, s.handles⟩ with inFlight := true }
        { c.push ⟨object, s.handles⟩ with inFlight := true } :=
      .of_fields alike.key alike.plural_eq (congrArg (· ++ [_]) alike.pending) rfl
        alike.held
    have joined := ((asked.ensureBucket ⟨key, (s.saveable object).model.plural, [], [], false⟩).note
      (.joined key ⟨object, s.handles⟩)).modifyBucket key pushed
    rw [asked.busy key]
    split
    · exact joined
    · exact joined.pushJob (.cycle key)
  · have first : s.enqueue object = r.pushJob (.update ⟨object, s.handles⟩) := hs ▸ if_neg new
    have second : t.enqueue object = r'.pushJob (.update ⟨object, t.handles⟩) :=
      ht ▸ if_neg (record ▸ new)
    rw [first, second, handles]
    exact asked.pushJob _

end AlikeBut

end State

end Queue

end Writeback
