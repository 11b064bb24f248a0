import Writeback.Proofs.Queue.Asking
import Writeback.Proofs.Queue.Moves
import Writeback.Proofs.Queue.Reports
import Writeback.Proofs.Queue.Rest

/-!
# What a turn does to the buckets

Until a cycle ends, nothing changes in what the buckets hold, and no bucket leaves flight: a turn
may write things down, let a save join a line or take a batch out of one, and start jobs. `Prelude`
is such a change. A job that runs comes no further than that, or it is a direct save that returns,
or it ends a cycle, which closes or was cut short; `Course` lists the four, and `Turn.course` says
that a turn in which no job runs is a prelude, too.
-/

namespace Writeback

namespace Event

/-- Whether the event is neither an answer nor a report on a save. -/
def isQuiet : Event → Bool
  | answered _ _ _ _ | hooked _ _ | settled _ _ => false
  | _ => true

/-- Whether a save ends by what became of its whole batch: the request failed or became a
background task, or the cycle was cut short. -/
def endsBatch : Event → Bool
  | settled _ (.error (.transport _)) | settled _ (.error .cancelled) => true
  | settled _ (.ok (.backgroundTask _)) => true
  | _ => false

/-- The answer that a bucket is to hold, next to its batch. -/
def reply? (key : BucketKey) : Event → Option HeldResponse
  | answered k batch _ (.body value) =>
    if k = key ∧ value.field? "background_task" = none then some ⟨batch, value⟩ else none
  | _ => none

theorem isReport_of_isQuiet {e : Event} (h : e.isQuiet = true) : e.isReport = false := by
  cases e <;> simp_all [isQuiet, isReport]

theorem isQuiet_of_isRemark {e : Event} (h : e.isRemark = true) : e.isQuiet = true := by
  cases e <;> simp_all [isQuiet, isRemark]

theorem exists_of_reply? {e : Event} {key : BucketKey} {response : HeldResponse}
    (h : e.reply? key = some response) : ∃ request,
      e = .answered key response.batch request (.body response.body) ∧
        response.body.field? "background_task" = none := by
  unfold reply? at h
  split at h
  · split at h
    · next plain =>
      obtain ⟨rfl, none⟩ := plain
      cases h
      exact ⟨_, rfl, none⟩
    · cases h
  · cases h

end Event

/-- The answers that came to a bucket to be held, in order. -/
def answersIn (key : BucketKey) (events : List Event) : List HeldResponse :=
  events.filterMap (Event.reply? key)

theorem answersIn_append (key : BucketKey) (events news : List Event) :
    answersIn key (events ++ news) = answersIn key events ++ answersIn key news :=
  List.filterMap_append

theorem answersIn_eq_nil {key : BucketKey} {events : List Event}
    (none : ∀ batch request answer, .answered key batch request answer ∉ events) :
    answersIn key events = [] := by
  refine List.filterMap_eq_nil_iff.mpr fun e mem => Option.eq_none_iff_forall_ne_some.mpr ?_
  intro response reply
  obtain ⟨request, rfl, -⟩ := Event.exists_of_reply? reply
  exact none _ _ _ mem

theorem Ledger.exists_events_measure (l : Ledger) (tracker : Tracker) (timer : Timer)
    (ending : Ending) : ∃ news, (l.measure tracker timer ending).events = l.events ++ news ∧
      (∀ e ∈ news, e.isRemark = true) ∧
      (l.measure tracker timer ending).records = l.records := by
  unfold Ledger.measure
  split
  · exact ⟨_, events_note _ _, by simp [Event.isRemark], rfl⟩
  · exact ⟨[], (List.append_nil _).symm, by simp, rfl⟩

namespace Queue

namespace State

/-- Whether the bucket with this key is in flight. -/
def flies (s : State) (key : BucketKey) : Bool := ((s.bucket? key).map Bucket.inFlight).getD false

/-- The answers that the bucket with this key holds. -/
def heldBy (s : State) (key : BucketKey) : List HeldResponse :=
  ((s.bucket? key).map Bucket.held).getD []

section Buckets

variable {s t : State} {key other : BucketKey} {b : Bucket} {f : Bucket → Bucket}

theorem bucket?_congr (same : t.buckets = s.buckets) (key : BucketKey) :
    t.bucket? key = s.bucket? key := by
  rw [bucket?, same, bucket?]

theorem flies_congr (same : t.buckets = s.buckets) (key : BucketKey) :
    t.flies key = s.flies key := by
  rw [flies, bucket?_congr same, flies]

theorem heldBy_congr (same : t.buckets = s.buckets) (key : BucketKey) :
    t.heldBy key = s.heldBy key := by
  rw [heldBy, bucket?_congr same, heldBy]

theorem flies_of_bucket? (found : s.bucket? key = some b) : s.flies key = b.inFlight := by
  simp [flies, found]

theorem heldBy_of_bucket? (found : s.bucket? key = some b) : s.heldBy key = b.held := by
  simp [heldBy, found]

theorem exists_of_flies (h : s.flies key = true) :
    ∃ b, s.bucket? key = some b ∧ b.inFlight = true := by
  cases found : s.bucket? key with
  | none => simp [flies, found] at h
  | some b => exact ⟨b, rfl, by simpa [flies, found] using h⟩

theorem bucket?_modifyBucket_of_ne (keeps : ∀ b, (f b).key = b.key) (ne : other ≠ key) :
    (s.modifyBucket key f).bucket? other = s.bucket? other := by
  have looks : ((fun b : Bucket => b.key == other) ∘ fun b => if b.key = key then f b else b) =
      fun b => b.key == other := by
    funext b
    by_cases same : b.key = key <;> simp [same, keeps]
  rw [bucket?, modifyBucket, List.find?_map, looks]
  cases found : s.buckets.find? fun b => b.key == other with
  | none => rw [bucket?, found, Option.map_none]
  | some b =>
    have here : b.key = other := key_of_bucket? (s := s) found
    rw [bucket?, found, Option.map_some, if_neg fun same => ne (here.symm.trans same)]

/-- What is read off the buckets stays when a bucket changes that reads the same. -/
theorem map_bucket?_modifyBucket {α : Type} {read : Bucket → α} (keeps : ∀ b, (f b).key = b.key)
    (same : ∀ b, read (f b) = read b) :
    ((s.modifyBucket key f).bucket? other).map read = (s.bucket? other).map read := by
  by_cases here : other = key
  · subst here
    rw [bucket?_modifyBucket keeps, Option.map_map]
    exact Option.map_congr fun b _ => same b
  · rw [bucket?_modifyBucket_of_ne keeps here]

/-- A bucket that is added holds nothing and is out of flight. -/
theorem map_bucket?_ensureBucket {α : Type} {read : Bucket → α} {default : α}
    (new : read b = default) :
    (((s.ensureBucket b).bucket? other).map read).getD default =
      ((s.bucket? other).map read).getD default := by
  unfold ensureBucket
  split
  · rfl
  · next none =>
    have looks : ({ s with buckets := s.buckets ++ [b] } : State).bucket? other =
        (s.bucket? other).or ([b].find? fun c => c.key == other) := List.find?_append
    rw [looks]
    cases s.bucket? other with
    | some c => rfl
    | none => by_cases here : b.key = other <;> simp [here, new]

@[simp] theorem release_buckets (s : State) : s.release.buckets = s.buckets := by
  unfold release
  split <;> rfl

end Buckets

end State

/-- Between the two states, what buckets hold did not change, and none left flight. -/
structure Prelude (s t : State) (news : List Event) : Prop where
  events : t.events = s.events ++ news
  held : ∀ key, t.heldBy key = s.heldBy key
  flies : ∀ key, s.flies key = true → t.flies key = true

namespace Prelude

variable {s t u : State} {news more : List Event}

theorem of_buckets (events : t.events = s.events ++ news) (same : t.buckets = s.buckets) :
    Prelude s t news :=
  ⟨events, State.heldBy_congr same, fun key h => (State.flies_congr same key).trans h⟩

theorem refl (s : State) : Prelude s s [] := of_buckets (List.append_nil _).symm rfl

theorem trans (first : Prelude s t news) (second : Prelude t u more) :
    Prelude s u (news ++ more) where
  events := by rw [second.events, first.events, List.append_assoc]
  held key := (second.held key).trans (first.held key)
  flies key h := second.flies key (first.flies key h)

theorem before (first : Prelude s t []) (second : Prelude t u news) : Prelude s u news :=
  first.trans second

theorem then_nil (first : Prelude s t news) (second : Prelude t u []) : Prelude s u news :=
  List.append_nil news ▸ first.trans second

theorem onLedger {f : Ledger → Ledger} (events : (f s.toLedger).events = s.events ++ news) :
    Prelude s (s.onLedger f) news :=
  of_buckets events rfl

theorem note (s : State) (event : Event) : Prelude s (s.onLedger (·.note event)) [event] :=
  onLedger (Ledger.events_note _ _)

theorem modifyBucket (s : State) (key : BucketKey) {f : Bucket → Bucket}
    (keeps : ∀ b, (f b).key = b.key) (held : ∀ b, (f b).held = b.held)
    (flies : ∀ b : Bucket, b.inFlight = true → (f b).inFlight = true) :
    Prelude s (s.modifyBucket key f) [] where
  events := (List.append_nil _).symm
  held other := by
    rw [State.heldBy, State.map_bucket?_modifyBucket keeps held, State.heldBy]
  flies other h := by
    obtain ⟨b, found, flying⟩ := State.exists_of_flies h
    by_cases here : other = key
    · subst here
      have there : (s.modifyBucket other f).bucket? other = some (f b) := by
        rw [State.bucket?_modifyBucket keeps, found, Option.map_some]
      rw [State.flies_of_bucket? there]
      exact flies b flying
    · rw [← State.bucket?_modifyBucket_of_ne (f := f) keeps here] at found
      rwa [State.flies_of_bucket? found]

theorem ensureBucket (s : State) {b : Bucket} (empty : b.held = []) (idle : b.inFlight = false) :
    Prelude s (s.ensureBucket b) [] where
  events := by rw [State.toLedger_ensureBucket, List.append_nil]
  held other := State.map_bucket?_ensureBucket empty
  flies other h := (State.map_bucket?_ensureBucket idle).trans h

theorem pushJob (s : State) (job : Job) : Prelude s (s.pushJob job) [.queued job] :=
  of_buckets (State.events_pushJob s job) rfl

theorem release (s : State) : Prelude s s.release [] :=
  of_buckets (by rw [State.release_toLedger, List.append_nil]) s.release_buckets

theorem startJobs (id : Nat) (jobs : List Job) (s : State) :
    Prelude s (State.startJobs id jobs s) [] := by
  rw [State.startJobs_eq]
  exact of_buckets (List.append_nil _).symm rfl

theorem drain (id : Nat) (s : State) : Prelude s (State.drain id s) [] := by
  rw [State.drain_eq]
  exact of_buckets (List.append_nil _).symm rfl

theorem endQuiet (generation : Nat) (s : State) : Prelude s (s.endQuiet generation) [] := by
  have counted : Prelude s { s with drains := s.drains + 1 } [] :=
    of_buckets (List.append_nil _).symm rfl
  unfold State.endQuiet
  split
  · exact counted.before (drain _ _)
  · exact refl s

/-- Enqueueing lets a save join a bucket, or queues a direct save. -/
theorem enqueue (s : State) (object : Nat) :
    ∃ news, Prelude s (s.enqueue object) news ∧ ∀ e ∈ news, e.isQuiet = true := by
  have counted : Prelude s { s with handles := s.handles + 1 } [] :=
    of_buckets (List.append_nil _).symm rfl
  unfold State.enqueue
  dsimp only
  split
  · have opened (key : BucketKey) (plural : String) := counted.before
      (ensureBucket _ (b := { key := key, plural := plural }) rfl rfl)
    have joined (key : BucketKey) (plural : String) (save : Save) :=
      ((opened key plural).before (note _ (.joined key save))).then_nil
        (modifyBucket (f := fun b => { b.push save with inFlight := true }) _ key (fun _ => rfl)
          (fun _ => rfl) fun _ _ => rfl)
    split
    · exact ⟨_, joined _ _ _, by simp [Event.isQuiet]⟩
    · exact ⟨_, (joined _ _ _).trans (pushJob _ _), by simp [Event.isQuiet]⟩
  · exact ⟨_, counted.before (pushJob _ _), by simp [Event.isQuiet]⟩

end Prelude

/-- What is written down before a cycle closes that was not cut short, with the answer that is to be
held. -/
structure Closing (s u : State) (key : BucketKey) (response : Option HeldResponse)
    (news : List Event) : Prop extends Prelude s u news where
  records : u.records = s.records
  ends : ∀ e ∈ news, e.isReport = true → e.endsBatch = true
  answers : ∀ other batch request answer, .answered other batch request answer ∈ news →
    other = key ∧ answer ≠ .crash
  holds : answersIn key news = response.toList

/-- What is written down before a cycle ends that a transport or a serialization that crashed has
cut short. -/
structure Aborting (s u : State) (key : BucketKey) (batch : List Save) (news : List Event) : Prop
    extends Prelude s u news where
  cut : (∃ request, .answered key batch request .crash ∈ news) ∨
    .taken key batch ∈ news ∧ s.batchBody? key batch = none
  crashes : ∀ e ∈ news, e.isQuiet = true ∨ ∃ request, e = .answered key batch request .crash

/-- What a job does that runs: it comes to where it sleeps, it is a direct save that returns or
crashes, or it ends a cycle. -/
inductive Course (s t : State) : Job → Prop where
  | goesOn {job : Job} {news : List Event} (prelude : Prelude s t news)
      (quiet : ∀ e ∈ news, e.isQuiet = true) : Course s t job
  /-- A direct save returns or crashes. -/
  | replies {save : Save} {news : List Event} (prelude : Prelude s t news)
      (replied : ∃ reply, .replied save reply ∈ news)
      (only : ∀ e ∈ news, e.isQuiet = true ∨ e.reportsOn save = true) : Course s t (.update save)
  /-- A cycle that was not cut short ends. -/
  | closes {key : BucketKey} {u : State} {news : List Event} {response : Option HeldResponse}
      (closing : Closing s u key response news)
      (same : t = (u.closeCycle key response).release) : Course s t (.cycle key)
  /-- A cycle that was cut short ends. -/
  | aborts {key : BucketKey} {u : State} {news : List Event} {batch : List Save}
      (aborting : Aborting s u key batch news) (same : t = (u.abortCycle key batch).release) :
      Course s t (.cycle key)

section Endings

variable {s t u : State} {key : BucketKey} {batch : List Save} {news more : List Event}

theorem unanswered_of_quiet (quiet : ∀ e ∈ news, e.isQuiet = true) (key : BucketKey)
    (batch : List Save) (request : Request) (answer : Answer) :
    .answered key batch request answer ∉ news := by
  intro mem
  cases quiet _ mem

/-- What comes before is quiet. -/
theorem Closing.after {response : Option HeldResponse} (first : Prelude s u news)
    (quiet : ∀ e ∈ news, e.isQuiet = true) (records : u.records = s.records)
    (h : Closing u t key response more) : Closing s t key response (news ++ more) where
  toPrelude := first.trans h.toPrelude
  records := h.records.trans records
  ends := by
    refine List.forall_mem_append.mpr ⟨fun e he report => ?_, h.ends⟩
    rw [Event.isReport_of_isQuiet (quiet e he)] at report
    cases report
  answers other batch request answer mem :=
    h.answers _ _ _ _ ((List.mem_append.mp mem).resolve_left (unanswered_of_quiet quiet _ _ _ _))
  holds := by
    rw [answersIn_append, answersIn_eq_nil (unanswered_of_quiet quiet key), List.nil_append,
      h.holds]

/-- What comes before is quiet. -/
theorem Aborting.after (first : Prelude s u news) (quiet : ∀ e ∈ news, e.isQuiet = true)
    (records : u.records = s.records) (h : Aborting u t key batch more) :
    Aborting s t key batch (news ++ more) where
  toPrelude := first.trans h.toPrelude
  cut := by
    rcases h.cut with ⟨request, crashed⟩ | ⟨taken, body⟩
    · exact .inl ⟨request, List.mem_append_right _ crashed⟩
    · refine .inr ⟨List.mem_append_right _ taken, ?_⟩
      rw [← body]
      simp only [Ledger.batchBody?, Ledger.saveable, Ledger.record, records]
  crashes := List.forall_mem_append.mpr ⟨fun e he => .inl (quiet e he), h.crashes⟩

theorem Aborting.eq_of_answered (h : Aborting s u key batch news) {other : BucketKey}
    {batch' : List Save} {request : Request} {answer : Answer}
    (mem : .answered other batch' request answer ∈ news) : other = key ∧ answer = .crash := by
  rcases h.crashes _ mem with quiet | ⟨request, same⟩
  · cases quiet
  · cases same
    exact ⟨rfl, rfl⟩

theorem Aborting.isReport (h : Aborting s u key batch news) : ∀ e ∈ news, e.isReport = false := by
  intro e mem
  rcases h.crashes e mem with quiet | ⟨request, rfl⟩
  · exact Event.isReport_of_isQuiet quiet
  · rfl

theorem Aborting.answersIn_eq_nil (h : Aborting s u key batch news) (other : BucketKey) :
    answersIn other news = [] := by
  refine List.filterMap_eq_nil_iff.mpr fun e mem => ?_
  rcases h.crashes e mem with quiet | ⟨request, rfl⟩
  · cases e <;> simp_all [Event.isQuiet, Event.reply?]
  · rfl

end Endings

namespace Course

variable {s t u : State} {job : Job} {news : List Event}

/-- What comes before is quiet. -/
theorem after (first : Prelude s u news) (quiet : ∀ e ∈ news, e.isQuiet = true)
    (records : u.records = s.records) (h : Course u t job) : Course s t job := by
  cases h with
  | goesOn prelude more =>
    exact .goesOn (first.trans prelude) (List.forall_mem_append.mpr ⟨quiet, more⟩)
  | replies prelude replied only =>
    obtain ⟨reply, replied⟩ := replied
    exact .replies (first.trans prelude) ⟨reply, List.mem_append_right _ replied⟩
      (List.forall_mem_append.mpr ⟨fun e he => .inl (quiet e he), only⟩)
  | closes closing same => exact .closes (.after first quiet records closing) same
  | aborts aborting same => exact .aborts (.after first quiet records aborting) same

theorem sleepThen {task : Task} {duration : Nat} {goOn : State → State}
    (h : Course s (goOn s) job) : Course s (s.sleepThen duration task goOn) job := by
  unfold State.sleepThen
  split
  · exact h
  · exact .goesOn (.of_buckets (List.append_nil _).symm rfl) (by simp)

/-- A cycle ends with the answer to its batch, after measurements and the ends of saves. -/
theorem closed {cycle : Cycle} {answer : Answer} (response : Option HeldResponse)
    (answered : Prelude s u [.answered cycle.key cycle.batch cycle.request answer])
    (records : u.records = s.records) {f : Ledger → Ledger}
    (events : (f u.toLedger).events = u.events ++ news)
    (kept : (f u.toLedger).records = u.records)
    (ends : ∀ e ∈ news, e.isRemark = true ∨ e.endsBatch = true) (uncut : answer ≠ .crash)
    (holds : answersIn cycle.key [.answered cycle.key cycle.batch cycle.request answer] =
      response.toList) :
    Course s ((u.onLedger f).closeCycle cycle.key response).release (.cycle cycle.key) := by
  have unanswered (other : BucketKey) (batch : List Save) (request : Request) (answer : Answer) :
      .answered other batch request answer ∉ news := fun mem => by
    simpa [Event.isRemark, Event.endsBatch] using ends _ mem
  refine .closes ⟨answered.trans (.onLedger events), kept.trans records,
    fun e mem report => ?_, fun other batch request answer mem => ?_, ?_⟩ rfl
  · rcases List.mem_append.mp mem with old | new
    · rw [List.mem_singleton.mp old] at report
      cases report
    · refine (ends e new).resolve_left fun remark => ?_
      rw [Event.isReport_of_isQuiet (Event.isQuiet_of_isRemark remark)] at report
      cases report
  · have old := (List.mem_append.mp mem).resolve_right (unanswered other batch request answer)
    cases List.mem_singleton.mp old
    exact ⟨rfl, uncut⟩
  · rw [answersIn_append, answersIn_eq_nil (unanswered cycle.key), List.append_nil, holds]

theorem arrive (setup : Setup) (cycle : Cycle) (s : State) :
    Course s (s.arrive setup cycle).release (.cycle cycle.key) := by
  unfold State.arrive
  dsimp only
  generalize setup.transport.answer s.answeredRequests cycle.request = answer
  generalize hr : ({ s with inFlight := s.inFlight - 1 } : State).onLedger
    (·.note (.answered cycle.key cycle.batch cycle.request answer)) = r
  have answered : Prelude s r [.answered cycle.key cycle.batch cycle.request answer] := by
    subst hr
    exact .of_buckets (Ledger.events_note _ _) rfl
  have records : r.records = s.records := by subst hr; rfl
  have measured (ending : Ending) := r.exists_events_measure setup.tracker cycle.timer ending
  cases answer with
  | crash =>
    exact .aborts ⟨answered, .inl ⟨_, List.mem_singleton_self _⟩, by simp⟩ rfl
  | failure cause =>
    obtain ⟨news, events, remarks, kept⟩ := measured .failed
    have settled := Ledger.events_settleAll (r.measure setup.tracker cycle.timer .failed)
      (.error (.ofTransport cause)) cycle.batch
    rw [events, List.append_assoc] at settled
    refine closed none answered records settled ?_ ?_ (by simp) rfl
    · rw [Ledger.records_settleAll, kept]
    · refine List.forall_mem_append.mpr ⟨fun e he => .inl (remarks e he), ?_⟩
      simp [Failure.ofTransport, Event.endsBatch]
  | body value =>
    obtain ⟨news, events, remarks, kept⟩ := measured .stopped
    cases field : value.field? "background_task" with
    | some task =>
      have settled := Ledger.events_settleAll (r.measure setup.tracker cycle.timer .stopped)
        (.ok (.backgroundTask task)) cycle.batch
      rw [events, List.append_assoc] at settled
      simp only [field]
      refine closed (f := fun l => (l.measure _ _ _).settleAll _ _) none answered records settled
        ?_ ?_ (by simp) ?_
      · rw [Ledger.records_settleAll, kept]
      · refine List.forall_mem_append.mpr ⟨fun e he => .inl (remarks e he), ?_⟩
        simp [Event.endsBatch]
      · simp [answersIn, Event.reply?, field]
    | none =>
      simp only [field]
      refine closed _ answered records events kept (fun e he => .inl (remarks e he)) (by simp) ?_
      simp [answersIn, Event.reply?, field]

theorem depart (setup : Setup) (id : Nat) (cycle : Cycle) (s : State) :
    Course s (s.depart setup id cycle) (.cycle cycle.key) := by
  have posted : Prelude s (({ s with
      inFlight := s.inFlight + 1, peak := max s.peak (s.inFlight + 1) } : State).onLedger
        (·.note (.posted cycle.key cycle.batch cycle.request)))
      [.posted cycle.key cycle.batch cycle.request] :=
    .of_buckets (Ledger.events_note _ _) rfl
  unfold State.depart
  exact after posted (by simp [Event.isQuiet]) rfl (sleepThen (arrive setup cycle _))

theorem startCycle (setup : Setup) (id : Nat) (key : BucketKey) (s : State) :
    Course s (s.startCycle setup id key) (.cycle key) := by
  unfold State.startCycle
  cases found : s.bucket? key with
  | none => exact .goesOn (.release s) (by simp)
  | some bucket =>
    dsimp only
    generalize hr : (s.modifyBucket key (·.afterBatch setup.settings.batchLimit)).onLedger
      (·.note (.taken key (bucket.nextBatch setup.settings.batchLimit))) = r
    have taken : Prelude s r [.taken key (bucket.nextBatch setup.settings.batchLimit)] := by
      subst hr
      exact (Prelude.modifyBucket (f := (·.afterBatch _)) s key (fun _ => rfl) (fun _ => rfl)
        fun _ h => h).before (.note _ _)
    have records : r.records = s.records := by subst hr; rfl
    have same : r.batchBody? key = s.batchBody? key := by subst hr; rfl
    split
    · exact .closes ⟨taken, records, by simp [Event.isReport], by simp, rfl⟩ rfl
    · split
      · next crashes =>
        exact .aborts ⟨taken, .inr ⟨List.mem_singleton_self _, same ▸ crashes⟩,
          by simp [Event.isQuiet]⟩ rfl
      · exact after taken (by simp [Event.isQuiet]) records
          (sleepThen (depart setup id ⟨key, _, _, _⟩ r))

theorem finishUpdate (setup : Setup) (save : Save) (timer : Timer) (s : State) :
    Course s (s.finishUpdate setup save timer).release (.update save) := by
  let reply := (s.saveable save.object).saveReply
  -- Once the reply is there, a measurement may be kept, and the save ends.
  obtain ⟨news, events, remarks, -⟩ := ((s.toLedger.modifyRecord save.object
    (·.markReplied reply)).note (.replied save reply)).exists_events_measure setup.tracker timer
      reply.ending
  rw [Ledger.events_note, Ledger.events_modifyRecord] at events
  have told := congrArg (· ++ [Event.settled save reply.result]) events
  simp only [List.append_assoc, List.singleton_append] at told
  refine .replies ((Prelude.onLedger ((Ledger.events_note _ _).trans told)).then_nil (.release _))
    ⟨reply, List.mem_cons_self⟩ (List.forall_mem_cons.mpr ⟨.inl rfl, ?_⟩)
  refine List.forall_mem_append.mpr ⟨fun e he => ?_, by simp [Event.reportsOn]⟩
  exact .inl (Event.isQuiet_of_isRemark (remarks e he))

theorem startUpdate (setup : Setup) (id : Nat) (save : Save) (s : State) :
    Course s (s.startUpdate setup id save) (.update save) := by
  unfold State.startUpdate
  exact sleepThen (finishUpdate setup save _ s)

theorem runStage (setup : Setup) (id : Nat) (stage : Stage) (s : State) :
    Course s (s.runStage setup id stage) stage.job := by
  cases stage with
  | start job =>
    have started : Prelude s (s.onLedger (·.note (.started job))) [.started job] := .note s _
    cases job with
    | cycle key => exact after started (by simp [Event.isQuiet]) rfl (startCycle setup id key _)
    | update save => exact after started (by simp [Event.isQuiet]) rfl (startUpdate setup id save _)
  | depart cycle => exact depart setup id cycle s
  | arrive cycle => exact arrive setup cycle s
  | saved save timer => exact finishUpdate setup save timer s

end Course

section Turns

variable {setup : Setup} {s t : State}

/-- A task runs a job, or it changes nothing in what buckets hold. -/
theorem State.course_of_runTask (setup : Setup) (task : Task) (s : State) :
    Prelude s (s.runTask setup task) [] ∨
      ∃ id stage, task = .job id stage ∧ Course s (s.runTask setup task) stage.job := by
  have later {t : State} (same : t.buckets = s.buckets) (ledger : t.toLedger = s.toLedger) :
      Prelude s t [] :=
    .of_buckets (by rw [ledger, List.append_nil]) same
  match task with
  | .countdown generation =>
    left
    simp only [State.runTask, State.sleepThen]
    split
    · exact .endQuiet generation s
    · exact later rfl rfl
  | .due generation => exact .inl (.endQuiet generation s)
  | .flush id =>
    have outdated : Prelude s { s with generation := s.generation + 1 } [] := later rfl rfl
    exact .inl (outdated.before (.drain id _))
  | .admitted ⟨_, []⟩ => exact .inl (.release s)
  | .admitted ⟨id, job :: rest⟩ =>
    have spawned : Prelude s (s.spawn (.job id (.start job))) [] := later rfl rfl
    exact .inl (spawned.before (.startJobs id rest _))
  | .job id stage => exact .inr ⟨id, stage, rfl, .runStage setup id stage s⟩

/-- In a turn a job runs, or nothing changes in what buckets hold. -/
theorem Turn.course (turn : Turn setup s t) :
    (∃ news, Prelude s t news ∧ ∀ e ∈ news, e.isQuiet = true) ∨
      ∃ id stage, .job id stage ∈ s.tasks ∧ Course s t stage.job := by
  have unchanged {t : State} (prelude : Prelude s t []) :
      ∃ news, Prelude s t news ∧ ∀ e ∈ news, e.isQuiet = true := ⟨[], prelude, by simp⟩
  have same {t : State} (same : t.buckets = s.buckets) (events : t.events = s.events) :
      Prelude s t [] :=
    .of_buckets (by rw [events, List.append_nil]) same
  cases turn with
  | reorder | elapse => exact .inl (unchanged (same rfl rfl))
  | move move =>
    cases move with
    | create | flushLater | wait => exact .inl (unchanged (same rfl rfl))
    | enqueue object => exact .inl (Prelude.enqueue s object)
    | flush =>
      have outdated : Prelude s { s with
          drains := s.drains + 1, generation := s.generation + 1 } [] := same rfl rfl
      exact .inl (unchanged (outdated.before (.drain s.drains _)))
    | step _ step =>
      unfold State.step? at step
      split at step
      · next task rest ready =>
        cases step
        have popped : Prelude s { s with ready := rest } [] := same rfl rfl
        rcases State.course_of_runTask setup task { s with ready := rest } with
          prelude | ⟨id, stage, rfl, course⟩
        · exact .inl (unchanged (popped.before prelude))
        · refine .inr ⟨id, stage, ?_, .after popped (by simp) rfl course⟩
          simp [State.tasks, ready]
      · obtain ⟨time, -, rfl⟩ := Option.map_eq_some_iff.mp step
        exact .inl (unchanged (same rfl rfl))

end Turns

end Queue

end Writeback
