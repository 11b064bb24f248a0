import Writeback.Proofs.Queue.Calls
import Writeback.Proofs.Queue.Courses
import Writeback.Proofs.Queue.Isolation

/-!
# Answers are handed back when a bucket leaves flight

While a bucket is in flight it holds the answers that came since it entered flight, and its saves
end only as their whole batch does. When a cycle ends with the bucket empty, the bucket leaves
flight and all these answers are handed back in the same turn, in the order of their cycles; a cycle
that was cut short gives them up instead. So the hooks of a bucket are called in the order in which
its saves were asked for.
-/

namespace Writeback

namespace Ledger

/-- A redistribution reports on the saves that it is given alone. -/
theorem exists_reports_redistribute (typeName : String) (responses : List HeldResponse)
    (l : Ledger) : ∃ reports, Reported l reports (l.redistribute typeName responses).1 ∧
      ∀ e ∈ reports, ∃ save ∈ responses.flatMap HeldResponse.batch, e.reportsOn save = true := by
  obtain ⟨reports, reported, ended, called⟩ := l.exists_calls_redistribute typeName responses
  refine ⟨reports, reported, fun e mem => ?_⟩
  have report := reported.isReport e mem
  cases e with
  | hooked save payload =>
    refine ⟨save, called.subset (List.mem_filterMap.mpr ⟨_, mem, rfl⟩), ?_⟩
    simp [Event.reportsOn]
  | settled save result =>
    refine ⟨save, ended ▸ List.mem_filterMap.mpr ⟨_, mem, rfl⟩, ?_⟩
    simp [Event.reportsOn]
  | _ => cases report

end Ledger

namespace Queue

/-- What a turn means for a bucket. -/
inductive Passage (key : BucketKey) (s t : State) : Prop where
  /-- It stays in flight, or was not in flight. What it holds grows by the answers that came, and
  its saves end only as whole batches do. If a cycle of it was answered, objects are pending. -/
  | waits (news : List Event) (events : t.events = s.events ++ news)
      (flag : s.flies key = true → t.flies key = true)
      (held : t.heldBy key = s.heldBy key ++ answersIn key news)
      (ends : ∀ save ∈ joinedIn key t.events, ∀ e ∈ reportsOf save news, e.endsBatch = true)
      (more : ∀ batch request answer, .answered key batch request answer ∈ news →
        pendingIn key t.events ≠ [])
  /-- It leaves flight with a cycle that was not cut short, and then all answers that it held, and
  the one that came, are handed back. -/
  | handsBack (u : State) (news : List Event) (events : u.events = s.events ++ news)
      (records : u.records = s.records) (flew : s.flies key = true) (landed : u.flies key = false)
      (ends : ∀ e ∈ news, e.isReport = true → e.endsBatch = true)
      (uncut : ∀ batch request, .answered key batch request .crash ∉ news)
      (back : t = (u.onLedger fun l => (l.redistribute key.typeName
        (s.heldBy key ++ answersIn key news)).1).release)
  /-- It leaves flight with a cycle that a crash cut short, and saves are cancelled. -/
  | givesUp (news : List Event) (events : t.events = s.events ++ news) (flew : s.flies key = true)
      (landed : t.flies key = false)
      (cut : ∃ batch, (∃ request, .answered key batch request .crash ∈ news) ∨
        .taken key batch ∈ news ∧ s.batchBody? key batch = none)
      (crash : ∀ batch request answer, .answered key batch request answer ∈ news →
        answer = .crash)
      (cancelled : ∀ e ∈ news, e.isReport = true → ∃ save, e = .settled save (.error .cancelled))

/-- Some number of turns through which a bucket is in flight. -/
def Flight (setup : Setup) (key : BucketKey) : State → State → Prop :=
  Relation.ReflTransGen fun s t => Turn setup s t ∧ t.flies key = true

namespace State

variable {s t u : State} {key other : BucketKey} {b : Bucket} {f : Bucket → Bucket}

theorem flies_modifyBucket (keeps : ∀ b, (f b).key = b.key) (found : s.bucket? key = some b) :
    (s.modifyBucket key f).flies key = (f b).inFlight := by
  apply flies_of_bucket?
  rw [bucket?_modifyBucket keeps, found, Option.map_some]

theorem flies_modifyBucket_of_ne (keeps : ∀ b, (f b).key = b.key) (ne : other ≠ key) :
    (s.modifyBucket key f).flies other = s.flies other := by
  rw [flies, bucket?_modifyBucket_of_ne keeps ne, flies]

theorem heldBy_modifyBucket_of_ne (keeps : ∀ b, (f b).key = b.key) (ne : other ≠ key) :
    (s.modifyBucket key f).heldBy other = s.heldBy other := by
  rw [heldBy, bucket?_modifyBucket_of_ne keeps ne, heldBy]

/-- A bucket with this key leaves flight and holds nothing any more. -/
def land (s : State) (key : BucketKey) : State :=
  s.modifyBucket key fun b => { b with held := [], inFlight := false }

/-- The bucket with this key holds these answers. -/
def hold (s : State) (key : BucketKey) (responses : List HeldResponse) : State :=
  s.modifyBucket key fun b => { b with held := responses }

theorem closeCycle_of_empty (found : s.bucket? key = some b) (empty : b.pending = [])
    (response : Option HeldResponse) :
    s.closeCycle key response = (s.land key).onLedger
      fun l => (l.redistribute key.typeName (s.heldBy key ++ response.toList)).1 := by
  rw [heldBy_of_bucket? found]
  simp only [closeCycle, found, empty, List.isEmpty_nil, if_true, land]

theorem closeCycle_of_pending (found : s.bucket? key = some b) (more : b.pending ≠ [])
    (response : Option HeldResponse) :
    s.closeCycle key response =
      (s.hold key (s.heldBy key ++ response.toList)).pushJob (.cycle key) := by
  rw [heldBy_of_bucket? found]
  simp only [closeCycle, found, List.isEmpty_iff, more, if_false, hold]

theorem abortCycle_of_empty (found : s.bucket? key = some b) (empty : b.pending = [])
    (batch : List Save) :
    s.abortCycle key batch = (s.land key).onLedger
      (·.settleAll (.error .cancelled) ((s.heldBy key).flatMap HeldResponse.batch ++ batch)) := by
  rw [heldBy_of_bucket? found]
  simp only [abortCycle, found, empty, List.isEmpty_nil, if_true, land, Ledger.settleAll_append]
  rfl

theorem abortCycle_of_pending (found : s.bucket? key = some b) (more : b.pending ≠ [])
    (batch : List Save) :
    s.abortCycle key batch =
      (s.pushJob (.cycle key)).onLedger (·.settleAll (.error .cancelled) batch) := by
  simp only [abortCycle, found, List.isEmpty_iff, more, if_false]

section Land

theorem bucket?_land (found : s.bucket? key = some b) :
    (s.land key).bucket? key = some { b with held := [], inFlight := false } := by
  rw [land, bucket?_modifyBucket, found, Option.map_some]
  exact fun _ => rfl

theorem flies_land (found : s.bucket? key = some b) : (s.land key).flies key = false :=
  flies_modifyBucket (fun _ => rfl) found

theorem flies_land_of_ne (ne : other ≠ key) : (s.land key).flies other = s.flies other :=
  flies_modifyBucket_of_ne (fun _ => rfl) ne

theorem heldBy_land_of_ne (ne : other ≠ key) : (s.land key).heldBy other = s.heldBy other :=
  heldBy_modifyBucket_of_ne (fun _ => rfl) ne

end Land

section Hold

variable (responses : List HeldResponse)

theorem bucket?_hold (found : s.bucket? key = some b) :
    (s.hold key responses).bucket? key = some { b with held := responses } := by
  rw [hold, bucket?_modifyBucket, found, Option.map_some]
  exact fun _ => rfl

theorem flies_hold (other : BucketKey) : (s.hold key responses).flies other = s.flies other := by
  rw [flies, hold, map_bucket?_modifyBucket (f := fun b => { b with held := responses })
    (fun _ => rfl) fun _ => rfl, flies]

theorem heldBy_hold (found : s.bucket? key = some b) :
    (s.hold key responses).heldBy key = responses :=
  heldBy_of_bucket? (bucket?_hold responses found)

theorem heldBy_hold_of_ne (ne : other ≠ key) :
    (s.hold key responses).heldBy other = s.heldBy other :=
  heldBy_modifyBucket_of_ne (fun _ => rfl) ne

end Hold

end State

theorem onRecord_of_answersIn {key : BucketKey} {events : List Event} {response : HeldResponse}
    (mem : response ∈ answersIn key events) : OnRecord events key response := by
  obtain ⟨e, there, reply⟩ := List.mem_filterMap.mp mem
  obtain ⟨request, rfl, plain⟩ := Event.exists_of_reply? reply
  exact ⟨request, there, plain⟩

namespace ReachableInAnyOrder

variable {setup : Setup} {s t : State} {key : BucketKey}

theorem bucket?_of_mem (h : ReachableInAnyOrder setup s) {b : Bucket} (mem : b ∈ s.buckets) :
    s.bucket? b.key = some b := by
  cases found : s.bucket? b.key with
  | none => exact absurd (List.find?_eq_none.mp found b mem) (by simp)
  | some c =>
    obtain ⟨there, same⟩ := State.mem_of_bucket? found
    rw [h.workload.tokens.eq_of_key (Multiset.mem_coe.mpr mem) (Multiset.mem_coe.mpr there) same]

theorem onRecord_of_heldBy (h : ReachableInAnyOrder setup s) {response : HeldResponse}
    (mem : response ∈ s.heldBy key) : OnRecord s.events key response := by
  cases found : s.bucket? key with
  | none => simp [State.heldBy, found] at mem
  | some b =>
    obtain ⟨there, rfl⟩ := State.mem_of_bucket? found
    rw [State.heldBy_of_bucket? found] at mem
    exact h.workload.backed.held b (Multiset.mem_coe.mpr there) response mem

/-- The bucket of a cycle that runs is in flight. -/
theorem flies_of_task (h : ReachableInAnyOrder setup s) {id : Nat} {stage : Stage}
    (mem : .job id stage ∈ s.tasks) (job : stage.job = .cycle key) : s.flies key = true := by
  have keys : key ∈ stage.phase.keys := by
    cases stage <;> simp_all [Stage.job, Stage.phase]
  obtain ⟨b, there, flying, rfl⟩ :=
    h.workload.tokens.exists_bucket (State.phase_mem_underway mem) keys
  rw [State.flies_of_bucket? (h.bucket?_of_mem (Multiset.mem_coe.mp there)), flying]

theorem pendingIn_eq (h : ReachableInAnyOrder setup s) {b : Bucket}
    (found : s.bucket? key = some b) : pendingIn key s.events = b.pending := by
  obtain ⟨there, rfl⟩ := State.mem_of_bucket? found
  exact h.workload.inLine.pendingIn_eq (Multiset.mem_coe.mpr there)

end ReachableInAnyOrder

section Passages

variable {setup : Setup} {s t u : State} {key own : BucketKey} {news more : List Event}

/-- A turn that leaves a bucket waiting, which ends with something written down. -/
theorem Prelude.waits (prelude : Prelude s u news) (events : t.events = u.events ++ more)
    (flag : u.flies key = true → t.flies key = true)
    (held : t.heldBy key = u.heldBy key ++ answersIn key news)
    (ends : ∀ e ∈ news, e.isReport = true → e.endsBatch = true)
    (unanswered : ∀ batch request answer, .answered key batch request answer ∉ more)
    (others : ∀ save ∈ joinedIn key t.events, ∀ e ∈ reportsOf save more, e.endsBatch = true)
    (pending : ∀ batch request answer, .answered key batch request answer ∈ news →
      pendingIn key t.events ≠ []) : Passage key s t := by
  refine .waits (news ++ more) (by rw [events, prelude.events, List.append_assoc])
    (fun flying => flag (prelude.flies key flying)) ?_ (fun save joined e mem => ?_)
    fun batch request answer mem => ?_
  · rw [held, prelude.held, answersIn_append, answersIn_eq_nil unanswered, List.append_nil]
  · rw [reportsOf_append, List.mem_append] at mem
    rcases mem with early | late
    · obtain ⟨there, about⟩ := List.mem_filter.mp early
      exact ends e there (Event.isReport_of_reportsOn about)
    · exact others save joined e late
  · exact pending _ _ _ ((List.mem_append.mp mem).resolve_right (unanswered _ _ _))

/-- A turn that says nothing of answers or of the saves of a bucket. -/
theorem Prelude.passage (prelude : Prelude s t news)
    (unanswered : ∀ batch request answer, .answered key batch request answer ∉ news)
    (others : ∀ save ∈ joinedIn key t.events, reportsOf save news = []) : Passage key s t := by
  refine (Prelude.refl s).waits prelude.events (prelude.flies key) ?_ (by simp) unanswered
    (fun save joined e mem => ?_) (by simp)
  · rw [prelude.held]
    exact (List.append_nil _).symm
  · rw [others save joined] at mem
    exact absurd mem List.not_mem_nil

theorem Prelude.passage_of_quiet (prelude : Prelude s t news)
    (quiet : ∀ e ∈ news, e.isQuiet = true) (key : BucketKey) : Passage key s t := by
  refine prelude.passage (unanswered_of_quiet quiet key) fun save _ => ?_
  exact reportsOf_of_no_report fun e mem => Event.isReport_of_isQuiet (quiet e mem)

/-- A cycle ends with its bucket empty, and its answers are handed back. -/
theorem Closing.passage_of_land (h : ReachableInAnyOrder setup s)
    (h' : ReachableInAnyOrder setup t) (flew : s.flies own = true)
    {response : Option HeldResponse} (closing : Closing s u own response news) {b : Bucket}
    (found : u.bucket? own = some b)
    (same : t = ((u.land own).onLedger fun l => (l.redistribute own.typeName
      (u.heldBy own ++ response.toList)).1).release) (key : BucketKey) : Passage key s t := by
  by_cases mine : key = own
  · subst mine
    refine .handsBack (u.land key) news closing.events closing.records flew
      (State.flies_land found) closing.ends
      (fun batch request mem => (closing.answers _ _ _ _ mem).2 rfl) ?_
    rw [same, closing.holds, closing.held]
  · obtain ⟨reports, reported, about⟩ := (u.land own).exists_reports_redistribute own.typeName
      (u.heldBy own ++ response.toList)
    have events : t.events = u.events ++ reports := by
      rw [same, State.release_toLedger]
      exact reported.events
    have buckets : t.buckets = (u.land own).buckets := by
      rw [same, State.release_buckets]
      rfl
    have unanswered : ∀ batch request answer, .answered key batch request answer ∉ news :=
      fun batch request answer mem => mine (closing.answers _ _ _ _ mem).1
    -- What was handed back had joined the other bucket.
    have theirs : ∀ save ∈ (u.heldBy own ++ response.toList).flatMap HeldResponse.batch,
        save ∈ joinedIn own t.events := by
      intro save mem
      obtain ⟨r, hr, there⟩ := List.mem_flatMap.mp mem
      refine h'.workload.joined_of_onRecord ?_ there
      rw [closing.held, ← closing.holds] at hr
      change OnRecord t.events own r
      rw [events, closing.events]
      rcases List.mem_append.mp hr with old | new
      · exact (h.onRecord_of_heldBy old).append.append
      · obtain ⟨request, answered, plain⟩ := onRecord_of_answersIn new
        exact ⟨request, List.mem_append_left _ (List.mem_append_right _ answered), plain⟩
    refine closing.waits events ?_ ?_ closing.ends ?_ ?_
      fun batch request answer mem => absurd mem (unanswered _ _ _)
    · rw [State.flies_congr buckets, State.flies_land_of_ne mine]
      exact id
    · rw [State.heldBy_congr buckets, State.heldBy_land_of_ne mine, answersIn_eq_nil unanswered,
        List.append_nil]
    · intro batch request answer mem
      cases reported.isReport _ mem
    · intro save joined e mem
      obtain ⟨there, on⟩ := List.mem_filter.mp mem
      obtain ⟨other, among, on'⟩ := about e there
      obtain rfl := Event.eq_of_reportsOn on on'
      exact absurd (h'.workload.inLine.eq_of_joined joined (theirs save among)) mine

/-- A cycle ends while objects are pending, and its bucket waits for the next one. -/
theorem Closing.passage_of_next (h' : ReachableInAnyOrder setup t)
    {response : Option HeldResponse} (closing : Closing s u own response news) {b : Bucket}
    (found : u.bucket? own = some b) (pending : b.pending ≠ [])
    (same : t = ((u.hold own (u.heldBy own ++ response.toList)).pushJob (.cycle own)).release)
    (key : BucketKey) : Passage key s t := by
  have events : t.events = u.events ++ [.queued (.cycle own)] := by
    rw [same, State.release_toLedger]
    exact State.events_pushJob _ _
  have buckets : t.buckets = (u.hold own (u.heldBy own ++ response.toList)).buckets := by
    rw [same, State.release_buckets]
    rfl
  refine closing.waits events ?_ ?_ closing.ends (by simp) (by simp [reportsOf, Event.reportsOn])
    fun batch request answer mem => ?_
  · rw [State.flies_congr buckets, State.flies_hold]
    exact id
  · rw [State.heldBy_congr buckets]
    by_cases mine : key = own
    · subst mine
      rw [State.heldBy_hold _ found, closing.holds]
    · rw [State.heldBy_hold_of_ne _ mine,
        answersIn_eq_nil fun batch request answer mem => mine (closing.answers _ _ _ _ mem).1,
        List.append_nil]
  · obtain rfl := (closing.answers _ _ _ _ mem).1
    rw [h'.pendingIn_eq ((State.bucket?_congr buckets _).trans (State.bucket?_hold _ found))]
    exact pending

/-- A cycle that was cut short ends with its bucket empty, and gives up what is held. -/
theorem Aborting.passage_of_land (flew : s.flies own = true) {batch : List Save}
    (aborting : Aborting s u own batch news) {b : Bucket} (found : u.bucket? own = some b)
    (same : t = ((u.land own).onLedger (·.settleAll (.error .cancelled)
      ((u.heldBy own).flatMap HeldResponse.batch ++ batch))).release) (key : BucketKey) :
    Passage key s t := by
  have events : t.events = u.events ++ ((u.heldBy own).flatMap HeldResponse.batch ++ batch).map
      fun save => .settled save (.error .cancelled) := by
    rw [same, State.release_toLedger]
    exact Ledger.events_settleAll _ _ _
  have buckets : t.buckets = (u.land own).buckets := by
    rw [same, State.release_buckets]
    rfl
  by_cases mine : key = own
  · subst mine
    refine .givesUp _ (by rw [events, aborting.events, List.append_assoc]) flew ?_
      ⟨batch, aborting.cut.imp (fun ⟨request, mem⟩ => ⟨request, List.mem_append_left _ mem⟩)
        fun ⟨taken, body⟩ => ⟨List.mem_append_left _ taken, body⟩⟩
      (fun batch request answer mem => ?_) fun e mem report => ?_
    · rw [State.flies_congr buckets, State.flies_land found]
    · exact (aborting.eq_of_answered ((List.mem_append.mp mem).resolve_right (by simp))).2
    · rcases List.mem_append.mp mem with early | late
      · rw [aborting.isReport e early] at report
        cases report
      · obtain ⟨save, -, rfl⟩ := List.mem_map.mp late
        exact ⟨save, rfl⟩
  · refine aborting.waits events ?_ ?_ (fun e mem report => ?_) (by simp)
      (fun save joined e mem => ?_)
      fun batch request answer mem => absurd (aborting.eq_of_answered mem).1 mine
    · rw [State.flies_congr buckets, State.flies_land_of_ne mine]
      exact id
    · rw [State.heldBy_congr buckets, State.heldBy_land_of_ne mine, aborting.answersIn_eq_nil,
        List.append_nil]
    · rw [aborting.isReport e mem] at report
      cases report
    · obtain ⟨other, -, rfl⟩ := List.mem_map.mp (mem_of_mem_reportsOf mem)
      rfl

/-- A cycle that was cut short ends while objects are pending, and cancels its own batch. -/
theorem Aborting.passage_of_next (h' : ReachableInAnyOrder setup t) {batch : List Save}
    (aborting : Aborting s u own batch news) {b : Bucket} (found : u.bucket? own = some b)
    (pending : b.pending ≠ [])
    (same : t = ((u.pushJob (.cycle own)).onLedger
      (·.settleAll (.error .cancelled) batch)).release) (key : BucketKey) : Passage key s t := by
  have events : t.events = u.events ++ ([.queued (.cycle own)] ++
      batch.map fun save => .settled save (.error .cancelled)) := by
    rw [same, State.release_toLedger, ← List.append_assoc, ← State.events_pushJob]
    exact Ledger.events_settleAll _ _ _
  have buckets : t.buckets = u.buckets := by
    rw [same, State.release_buckets]
    rfl
  refine aborting.waits events ?_ ?_ (fun e mem report => ?_) (by simp)
    (fun save joined e mem => ?_) fun batch request answer mem => ?_
  · rw [State.flies_congr buckets]
    exact id
  · rw [State.heldBy_congr buckets, aborting.answersIn_eq_nil, List.append_nil]
  · rw [aborting.isReport e mem] at report
    cases report
  · obtain ⟨there, about⟩ := List.mem_filter.mp mem
    rcases List.mem_append.mp there with early | late
    · rw [List.mem_singleton.mp early] at about
      cases about
    · obtain ⟨other, -, rfl⟩ := List.mem_map.mp late
      rfl
  · obtain rfl := (aborting.eq_of_answered mem).1
    rw [h'.pendingIn_eq ((State.bucket?_congr buckets _).trans found)]
    exact pending

end Passages

section Turns

variable {setup : Setup} {s t : State} {key : BucketKey}

theorem Course.passage (h : ReachableInAnyOrder setup s) (h' : ReachableInAnyOrder setup t)
    {job : Job} (course : Course s t job) (flew : ∀ own, job = .cycle own → s.flies own = true)
    (key : BucketKey) : Passage key s t := by
  cases course with
  | goesOn prelude quiet => exact prelude.passage_of_quiet quiet key
  | @replies save news prelude replied only =>
    refine prelude.passage (fun batch request answer mem => ?_) fun other joined => ?_
    · simpa [Event.isQuiet, Event.reportsOn] using only _ mem
    · refine List.filter_eq_nil_iff.mpr fun e mem about => ?_
      rcases only e mem with quiet | on
      · have report := Event.isReport_of_reportsOn about
        rw [Event.isReport_of_isQuiet quiet] at report
        cases report
      · -- A direct save joined no bucket.
        obtain rfl := Event.eq_of_reportsOn about on
        obtain ⟨reply, there⟩ := replied
        have told : .replied other reply ∈ t.workload.events := by
          change _ ∈ t.events
          rw [prelude.events]
          exact List.mem_append_right _ there
        exact (h'.workload.only_bucket (mem_joinedIn.mp joined)).2
          (h'.workload.queued_of_replied told)
  | @closes own u news response closing same =>
    have flying := flew own rfl
    obtain ⟨b, found, -⟩ := State.exists_of_flies (closing.flies own flying)
    by_cases empty : b.pending = []
    · rw [State.closeCycle_of_empty found empty] at same
      exact closing.passage_of_land h h' flying found same key
    · rw [State.closeCycle_of_pending found empty] at same
      exact closing.passage_of_next h' found empty same key
  | @aborts own u news batch aborting same =>
    have flying := flew own rfl
    obtain ⟨b, found, -⟩ := State.exists_of_flies (aborting.flies own flying)
    by_cases empty : b.pending = []
    · rw [State.abortCycle_of_empty found empty] at same
      exact aborting.passage_of_land flying found same key
    · rw [State.abortCycle_of_pending found empty] at same
      exact aborting.passage_of_next h' found empty same key

theorem ReachableInAnyOrder.passage (h : ReachableInAnyOrder setup s) (turn : Turn setup s t)
    (key : BucketKey) : Passage key s t := by
  rcases turn.course with ⟨news, prelude, quiet⟩ | ⟨id, stage, mem, course⟩
  · exact prelude.passage_of_quiet quiet key
  · exact course.passage h (h.turn turn) (fun own job => h.flies_of_task mem job) key

/-- While a bucket is in flight, it holds the answers that came since it entered flight. -/
theorem Flight.held {r : State} (h : ReachableInAnyOrder setup r) (idle : r.flies key = false)
    (flight : Flight setup key r s) : ReachableInAnyOrder setup s ∧
      ∃ since, s.events = r.events ++ since ∧ s.heldBy key = answersIn key since := by
  induction flight with
  | refl =>
    refine ⟨h, [], (List.append_nil _).symm, ?_⟩
    cases found : r.bucket? key with
    | none => simp [State.heldBy, found, answersIn]
    | some b =>
      obtain ⟨there, rfl⟩ := State.mem_of_bucket? found
      rw [State.flies_of_bucket? found] at idle
      rw [State.heldBy_of_bucket? found,
        (h.workload.tokens.idle b (Multiset.mem_coe.mpr there) idle).2]
      rfl
  | @tail s t _ turn ih =>
    obtain ⟨turn, flying⟩ := turn
    obtain ⟨reachable, since, events, held⟩ := ih
    refine ⟨reachable.turn turn, ?_⟩
    cases reachable.passage turn key with
    | waits news more _ grown =>
      refine ⟨since ++ news, by rw [more, events, List.append_assoc], ?_⟩
      rw [grown, held, answersIn_append]
    | handsBack u _ _ _ _ landed _ _ back =>
      have same : t.buckets = u.buckets := by
        rw [back, State.release_buckets]
        rfl
      rw [State.flies_congr same, landed] at flying
      cases flying
    | givesUp _ _ _ landed =>
      rw [landed] at flying
      cases flying

/-- Every moment of a run is on a flight of the bucket, or at the end of one. -/
theorem ReachableInAnyOrder.exists_flight (h : ReachableInAnyOrder setup s) (key : BucketKey) :
    ∃ r, ReachableInAnyOrder setup r ∧ r.flies key = false ∧ Flight setup key r s := by
  refine h.induction (P := fun s => ∃ r, ReachableInAnyOrder setup r ∧ r.flies key = false ∧
    Flight setup key r s) ⟨_, .initial, rfl, .refl⟩ fun s t reachable turn ih => ?_
  cases flying : t.flies key with
  | false => exact ⟨t, reachable.turn turn, flying, .refl⟩
  | true =>
    obtain ⟨r, origin, idle, flight⟩ := ih
    exact ⟨r, origin, idle, flight.tail ⟨turn, flying⟩⟩

/-- Answers wait for their bucket. Every moment of a run is on a flight of the bucket, which began
with the bucket out of flight. What the bucket holds are the answers that came since, in order. In a
turn, it keeps waiting: no hook of its saves is called, and they end only as whole batches do. Or a
cycle ends with the bucket empty: the bucket leaves flight, and all answers that it held, and the
one that came, are handed back in that turn. Or the cycle was cut short, and saves are cancelled.
Hooks are called for saves that joined a bucket, and those of one bucket in the order in which its
saves were asked for, each at most once. -/
theorem ReachableInAnyOrder.hands_back_in_order (h : ReachableInAnyOrder setup s)
    (key : BucketKey) :
    (∃ r, ReachableInAnyOrder setup r ∧ r.flies key = false ∧ Flight setup key r s) ∧
      (∀ r, ReachableInAnyOrder setup r → r.flies key = false → Flight setup key r s →
        ∃ since, s.events = r.events ++ since ∧ s.heldBy key = answersIn key since) ∧
      (∀ t, Turn setup s t → Passage key s t) ∧
      (∀ save payload, .hooked save payload ∈ s.events → ∃ own, save ∈ joinedIn own s.events) ∧
      (hookedIn key s.events).Sublist (joinedIn key s.events) ∧
      ((joinedIn key s.events).map Save.handle).Pairwise (· < ·) := by
  have called := h.workload.calledInLine
  refine ⟨h.exists_flight key, fun r origin idle flight => (flight.held origin idle).2,
    fun t turn => h.passage turn key, fun save payload mem => ?_, ?_,
    h.workload.pairwise_joinedIn key⟩
  · exact called.joined save (List.mem_filterMap.mpr ⟨_, mem, rfl⟩)
  · exact (List.sublist_append_left _ _).trans (called.line key)

/-- Two objects go out one by one: the answer to the first is held, and with the answer to the
second both hooks are called in one turn. -/
theorem hands_back_in_order_of_two_batches :
    let setup : Setup := .echoing { batchSize := 1 }
    let s := setup.after [⟨{}, true, 0, none⟩, ⟨{}, true, 0, none⟩] 7
    let t := (s.step? setup).getD s
    let key : BucketKey := .ofSaveable {}
    s.flies key = true ∧ (s.heldBy key).map HeldResponse.batch = [[⟨0, 0⟩]] ∧
      hookedIn key s.events = [] ∧ Passage key s t ∧ t.flies key = false ∧
      hookedIn key t.events = [⟨0, 0⟩, ⟨1, 1⟩] := by
  intro setup s t key
  have reachable := (Setup.reachable_after _ _ _ : Reachable setup s).inAnyOrder
  have more : (s.step? setup).isSome = true := by decide +kernel
  have step : s.step? setup = some t := by
    obtain ⟨u, there⟩ := Option.isSome_iff_exists.mp more
    simp only [t, there, Option.getD_some]
  refine ⟨by decide +kernel, by decide +kernel, by decide +kernel, ?_, by decide +kernel,
    by decide +kernel⟩
  exact (reachable.hands_back_in_order key).2.2.1 t (.move (.step s t step))

end Turns

end Queue

end Writeback
